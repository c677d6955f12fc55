import GpuDebug.Wire.Cursor

/-!
# Coordinates

Work-groups, work-items and grids are addressed by three signed components. A negative component
means that the coordinate is unknown.

* `Dim`: a coordinate;
* `Dim.encode`, `Dim.decode`: its record, twelve bytes.
-/

namespace GpuDebug

/-- The coordinate of a work-group or work-item, or the size of a group or grid. -/
structure Dim where
  x : Int32
  y : Int32
  z : Int32
  deriving DecidableEq, Repr, Inhabited

namespace Dim

/-- The coordinate that stands for none. -/
def unknown : Dim := ⟨-1, -1, -1⟩

def zero : Dim := ⟨0, 0, 0⟩

/-- A coordinate with a negative component is not known. -/
def isUnknown (d : Dim) : Bool :=
  d.x < 0 || d.y < 0 || d.z < 0

/-- The components with commas between them. -/
def text (d : Dim) : String :=
  s!"{d.x},{d.y},{d.z}"

instance : ToString Dim := ⟨text⟩

def encode (d : Dim) : Bytes :=
  Wire.i32 d.x ++ Wire.i32 d.y ++ Wire.i32 d.z

open Wire in
def decode : Decoder Dim := do
  let x ← Cursor.i32
  let y ← Cursor.i32
  let z ← Cursor.i32
  return ⟨x, y, z⟩

@[simp] theorem length_encode (d : Dim) : d.encode.length = 12 := by simp [encode]

end Dim

end GpuDebug
