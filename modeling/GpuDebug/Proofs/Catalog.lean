import GpuDebug.Kernels

/-!
# Launches in the catalog

* `KernelCatalog.launches`: how often a kernel was launched with one geometry.
* `KernelCatalog.activeDispatch?_register`: a launch that is registered is the active one, and is
  counted once.
-/

namespace GpuDebug

namespace Dispatch

theorem hasGeometry_iff {d : Dispatch} {groupSize gridSize : Dim} :
    d.hasGeometry groupSize gridSize = true ↔ d.groupSize = groupSize ∧ d.gridSize = gridSize := by
  rw [hasGeometry, Bool.and_eq_true, beq_iff_eq, beq_iff_eq]

end Dispatch

namespace Kernel

variable {groupSize gridSize : Dim}

theorem find?_countIn (dispatches : List Dispatch) :
    (countIn groupSize gridSize dispatches).find? (Dispatch.hasGeometry groupSize gridSize) =
      some ⟨groupSize, gridSize,
        (dispatches.find? (Dispatch.hasGeometry groupSize gridSize)).elim 0 (·.count) + 1⟩ := by
  induction dispatches with
  | nil => exact List.find?_cons_of_pos (Dispatch.hasGeometry_iff.mpr ⟨rfl, rfl⟩)
  | cons d dispatches ih =>
    rw [countIn]
    by_cases hd : d.hasGeometry groupSize gridSize = true
    · obtain ⟨rfl, rfl⟩ := Dispatch.hasGeometry_iff.mp hd
      rw [if_pos hd, List.find?_cons_of_pos hd]
      exact List.find?_cons_of_pos (Dispatch.hasGeometry_iff.mpr ⟨rfl, rfl⟩)
    · rw [if_neg hd, List.find?_cons_of_neg hd, List.find?_cons_of_neg hd, ih]

/-- The dispatch of a launch that was counted. -/
theorem dispatch?_launch (k : Kernel) :
    (k.launch groupSize gridSize).dispatch? groupSize gridSize =
      some ⟨groupSize, gridSize, (k.dispatch? groupSize gridSize).elim 0 (·.count) + 1⟩ :=
  find?_countIn k.dispatches

end Kernel

namespace KernelCatalog

/-- How often a kernel was launched with one geometry. -/
def launches (c : KernelCatalog) (l : Launch) : Nat :=
  ((c.kernel? l.kernel).bind (·.dispatch? l.groupSize l.gridSize)).elim 0 (·.count)

theorem find?_countIn (l : Launch) (kernels : List Kernel) :
    (countIn l kernels).find? (·.name == l.kernel) =
      some (((kernels.find? (·.name == l.kernel)).getD ⟨l.kernel, []⟩).launch
        l.groupSize l.gridSize) := by
  induction kernels with
  | nil => exact List.find?_cons_of_pos (beq_self_eq_true l.kernel)
  | cons k kernels ih =>
    rw [countIn]
    by_cases hk : (k.name == l.kernel) = true
    · have hlaunched : ((k.launch l.groupSize l.gridSize).name == l.kernel) = true := hk
      rw [if_pos hk, List.find?_cons_of_pos (by exact hlaunched),
        List.find?_cons_of_pos (by exact hk), Option.getD_some]
    · rw [if_neg hk, List.find?_cons_of_neg (by exact hk), List.find?_cons_of_neg (by exact hk), ih]

/-- The kernel of a launch that was registered. -/
theorem kernel?_register (c : KernelCatalog) (l : Launch) :
    (c.register l).kernel? l.kernel =
      some (((c.kernel? l.kernel).getD ⟨l.kernel, []⟩).launch l.groupSize l.gridSize) :=
  find?_countIn l c.kernels

/-- **A launch that is registered is the active one**, with one more launch than before. -/
theorem activeDispatch?_register (c : KernelCatalog) (l : Launch) :
    ∃ k, (c.register l).activeDispatch? =
        some (k, ⟨l.groupSize, l.gridSize, c.launches l + 1⟩) ∧ k.name = l.kernel := by
  have hkernel := kernel?_register c l
  have hcount : (((c.kernel? l.kernel).getD ⟨l.kernel, []⟩).dispatch? l.groupSize l.gridSize).elim 0
      (·.count) = c.launches l := by
    unfold launches
    cases c.kernel? l.kernel <;> rfl
  have hname := List.find?_some (p := fun k : Kernel => k.name == l.kernel) hkernel
  refine ⟨_, ?_, beq_iff_eq.mp hname⟩
  unfold activeDispatch?
  change ((c.register l).kernel? l.kernel).bind _ = _
  rw [hkernel, Option.bind_some, Kernel.dispatch?_launch, hcount]
  rfl

end KernelCatalog

end GpuDebug
