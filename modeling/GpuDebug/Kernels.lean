import GpuDebug.Dim

/-!
# Kernels and their launches

The catalog counts launches by kernel and geometry.

* `Dispatch`: the launches of one kernel with one geometry;
* `Dispatch.groupCount`: the number of work-groups on each axis;
* `KernelCatalog.register`: records one launch and makes its dispatch the active one;
* `KernelCatalog.activeDispatch?`: the dispatch last registered.
-/

namespace GpuDebug

/-- The launches of one kernel with one geometry. -/
structure Dispatch where
  groupSize : Dim
  gridSize : Dim
  count : Nat
  deriving DecidableEq, Repr, Inhabited

namespace Dispatch

/-- The number of groups that cover a grid on one axis, rounded up. Sizes below one count as
one. -/
def axisCount (grid group : Int32) : Int32 :=
  let extent := (max grid.toInt 1).toNat
  let step := (max group.toInt 1).toNat
  Int32.ofNat ((extent + (step - 1)) / step)

/-- The number of work-groups on each axis. -/
def groupCount (d : Dispatch) : Dim where
  x := axisCount d.gridSize.x d.groupSize.x
  y := axisCount d.gridSize.y d.groupSize.y
  z := axisCount d.gridSize.z d.groupSize.z

/-- Whether the dispatch has the given geometry. -/
def hasGeometry (groupSize gridSize : Dim) (d : Dispatch) : Bool :=
  d.groupSize == groupSize && d.gridSize == gridSize

end Dispatch

/-- One kernel and its dispatches, in the order in which their geometries were first seen. -/
structure Kernel where
  name : String
  dispatches : List Dispatch
  deriving DecidableEq, Repr, Inhabited

namespace Kernel

/-- The launches of all dispatches together. -/
def launchCount (k : Kernel) : Nat :=
  k.dispatches.foldl (fun total d => total + d.count) 0

/-- The dispatch with the given geometry. -/
def dispatch? (k : Kernel) (groupSize gridSize : Dim) : Option Dispatch :=
  k.dispatches.find? (Dispatch.hasGeometry groupSize gridSize)

/-- Counts one launch among some dispatches; a new geometry goes to the end. -/
def countIn (groupSize gridSize : Dim) : List Dispatch → List Dispatch
  | [] => [⟨groupSize, gridSize, 1⟩]
  | d :: ds =>
    if d.hasGeometry groupSize gridSize then { d with count := d.count + 1 } :: ds
    else d :: countIn groupSize gridSize ds

/-- Counts one launch of the kernel. -/
def launch (k : Kernel) (groupSize gridSize : Dim) : Kernel :=
  { k with dispatches := countIn groupSize gridSize k.dispatches }

end Kernel

/-- The name and geometry of a launch. -/
structure Launch where
  kernel : String
  groupSize : Dim
  gridSize : Dim
  deriving DecidableEq, Repr, Inhabited

/-- The kernels launched so far, in the order in which they were first seen. -/
structure KernelCatalog where
  kernels : List Kernel
  /-- The launch last registered. -/
  last : Option Launch
  deriving DecidableEq, Repr

namespace KernelCatalog

def empty : KernelCatalog := ⟨[], none⟩

instance : Inhabited KernelCatalog := ⟨empty⟩

/-- The kernel of the given name. -/
def kernel? (c : KernelCatalog) (name : String) : Option Kernel :=
  c.kernels.find? (·.name == name)

/-- Counts one launch among some kernels; a new name goes to the end. -/
def countIn (l : Launch) : List Kernel → List Kernel
  | [] => [Kernel.launch ⟨l.kernel, []⟩ l.groupSize l.gridSize]
  | k :: ks =>
    if k.name == l.kernel then k.launch l.groupSize l.gridSize :: ks else k :: countIn l ks

/-- Records one launch and makes its dispatch the active one. -/
def register (c : KernelCatalog) (l : Launch) : KernelCatalog :=
  ⟨countIn l c.kernels, some l⟩

/-- The dispatch last registered, with its kernel. -/
def activeDispatch? (c : KernelCatalog) : Option (Kernel × Dispatch) := do
  let l ← c.last
  let k ← c.kernel? l.kernel
  let d ← k.dispatch? l.groupSize l.gridSize
  return (k, d)

/-- The name of the kernel last launched. -/
def activeName? (c : KernelCatalog) : Option String :=
  c.activeDispatch?.map (·.1.name)

end KernelCatalog

end GpuDebug
