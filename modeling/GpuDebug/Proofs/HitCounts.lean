import GpuDebug.Proofs.BreakpointTable
import GpuDebug.Proofs.NotificationFormat
import GpuDebug.Proofs.Operation

/-!
# Hit counts after a report

A notification says of some breakpoints how often they were hit. The numbers and the counts stand in
two lists that are read side by side, so that what comes after the end of the shorter list is not
seen, and of a number that occurs twice the last count stays.

* `LastReport`: the last count that is given for a number.
* `Breakpoint.recounted_recountAll`: what reports make of one breakpoint.
* `Op.countHits_eq`, `Op.foldl_countHits`: what one report and a list of reports make of the host.
* `Op.updateStatistics_slots`: the slots that are not used say nothing.
* `Op.updateStatistics_counts`: the main result.
-/

namespace GpuDebug

variable {numbers counts : List Int32}

/-! ## One breakpoint -/

/-- The count at the last index, below both lengths, at which the number stands. -/
def LastReport (numbers counts : List Int32) (number count : Int32) : Prop :=
  ∃ i, numbers[i]? = some number ∧ counts[i]? = some count ∧
    ∀ j, i < j → j < counts.length → numbers[j]? ≠ some number

namespace LastReport

variable {number count : Int32}

theorem cons (h : LastReport numbers counts number count) (n k : Int32) :
    LastReport (n :: numbers) (k :: counts) number count := by
  obtain ⟨i, hnumber, hcount, hlast⟩ := h
  refine ⟨i + 1, hnumber, hcount, fun j hij hj => ?_⟩
  cases j with
  | zero => omega
  | succ j => exact hlast j (by omega) (Nat.lt_of_succ_lt_succ hj)

theorem head (h : number ∉ numbers.take counts.length) (count : Int32) :
    LastReport (number :: numbers) (count :: counts) number count := by
  refine ⟨0, rfl, rfl, fun j hij hj hnumber => h ?_⟩
  cases j with
  | zero => omega
  | succ j =>
    rw [List.mem_iff_getElem?]
    exact ⟨j, (List.getElem?_take_of_lt (Nat.lt_of_succ_lt_succ hj)).trans hnumber⟩

end LastReport

namespace Breakpoint

/-- The breakpoint `b'` is what reports make of `b`. The last count that is given for its number
stays, and a count below zero is none. Of negative numbers nothing is reported. -/
structure Recounted (numbers counts : List Int32) (b b' : Breakpoint) : Prop where
  reported : 0 ≤ b.number → b.number ∈ numbers.take counts.length →
    ∃ count, LastReport numbers counts b.number count ∧
      b' = { b with hitCount := count.toInt.toNat }
  unreported : ¬ (0 ≤ b.number ∧ b.number ∈ numbers.take counts.length) → b' = b

/-- The breakpoint after one report. -/
def recount (b : Breakpoint) (number count : Int32) : Breakpoint :=
  if 0 ≤ number ∧ b.number = number then { b with hitCount := count.toInt.toNat } else b

theorem recount_of_number_eq {b : Breakpoint} {number : Int32} (hnumber : 0 ≤ number)
    (h : b.number = number) (count : Int32) :
    b.recount number count = { b with hitCount := count.toInt.toNat } :=
  if_pos ⟨hnumber, h⟩

theorem recount_of_not {b : Breakpoint} {number : Int32} (h : ¬ (0 ≤ number ∧ b.number = number))
    (count : Int32) : b.recount number count = b :=
  if_neg h

@[simp] theorem recount_number (b : Breakpoint) (number count : Int32) :
    (b.recount number count).number = b.number := by
  unfold recount
  split <;> rfl

/-- The breakpoint after reports in order. -/
def recountAll (b : Breakpoint) (reports : List (Int32 × Int32)) : Breakpoint :=
  reports.foldl (fun b (number, count) => b.recount number count) b

/-- A later report writes over an earlier one. -/
theorem Recounted.cons {b b' : Breakpoint} {n k : Int32}
    (h : (b.recount n k).Recounted numbers counts b') :
    b.Recounted (n :: numbers) (k :: counts) b' := by
  have hnumber := b.recount_number n k
  by_cases hlater : 0 ≤ b.number ∧ b.number ∈ numbers.take counts.length
  · obtain ⟨count, hlast, heq⟩ := h.reported (hnumber ▸ hlater.1) (hnumber ▸ hlater.2)
    rw [hnumber] at hlast
    refine ⟨fun _ _ => ⟨count, hlast.cons n k, heq.trans ?_⟩, fun hnot => ?_⟩
    · unfold recount
      split <;> rfl
    · exact absurd ⟨hlater.1, List.mem_cons_of_mem n hlater.2⟩ hnot
  · obtain rfl : b' = b.recount n k := h.unreported (by rwa [hnumber])
    refine ⟨fun hpos hmem => ?_, fun hnot => ?_⟩
    · rw [List.length_cons, List.take_succ_cons, List.mem_cons] at hmem
      have hnow : b.number ∉ numbers.take counts.length := fun hmem => hlater ⟨hpos, hmem⟩
      obtain rfl : b.number = n := hmem.resolve_right hnow
      exact ⟨k, .head hnow k, recount_of_number_eq hpos rfl k⟩
    · refine recount_of_not (fun hnow => hnot ⟨hnow.2 ▸ hnow.1, ?_⟩) k
      rw [List.length_cons, List.take_succ_cons, hnow.2]
      exact List.mem_cons_self

theorem recounted_recountAll (numbers counts : List Int32) (b : Breakpoint) :
    b.Recounted numbers counts (b.recountAll (numbers.zip counts)) := by
  induction numbers generalizing counts b with
  | nil => exact ⟨fun _ h => absurd h (by simp), fun _ => rfl⟩
  | cons n numbers ih =>
    cases counts with
    | nil => exact ⟨fun _ h => absurd h List.not_mem_nil, fun _ => rfl⟩
    | cons k counts => exact (ih counts (b.recount n k)).cons

end Breakpoint

/-! ## The host -/

/-- Whether the host is told of a report about the number: it is not negative, and the host has a
breakpoint of it. -/
def Host.isTold (h : Host) (number : Int32) : Bool :=
  0 ≤ number ∧ number ∈ h.breakpoints.numbers

namespace Op

/-- The host after one report. -/
theorem countHits_eq (number count : Int32) (h : Host) :
    countHits number count h =
      { h with
        breakpoints := ⟨h.breakpoints.entries.map (·.recount number count)⟩
        modified := h.modified ++ [number].filter h.isTold } := by
  have hsame : ¬ (0 ≤ number ∧ number ∈ h.breakpoints.numbers) →
      h.breakpoints.entries.map (·.recount number count) = h.breakpoints.entries := by
    intro hnot
    refine (List.map_congr_left fun b hb => ?_).trans (List.map_id _)
    exact Breakpoint.recount_of_not (fun hnow =>
      hnot ⟨hnow.1, hnow.2 ▸ List.mem_map_of_mem hb⟩) count
  unfold countHits
  by_cases hneg : number < 0
  · have hnot : ¬ (0 ≤ number ∧ number ∈ h.breakpoints.numbers) :=
      fun hpos => Int32.not_le.mpr hneg hpos.1
    rw [if_pos hneg, hsame hnot]
    simp [Host.isTold, hnot]
  · have hpos : 0 ≤ number := Int32.not_lt.mp hneg
    rw [if_neg hneg]
    unfold Host.update
    cases hget : h.breakpoints.get? number with
    | none =>
      have hunknown : number ∉ h.breakpoints.numbers := by
        rw [BreakpointTable.mem_numbers, hget]
        exact Bool.false_ne_true
      rw [hsame fun hnow => hunknown hnow.2]
      simp [Host.isTold, hunknown]
    | some b =>
      have hknown : number ∈ h.breakpoints.numbers := by
        rw [BreakpointTable.mem_numbers, hget]
        rfl
      simp [Host.isTold, hpos, hknown, BreakpointTable.modify, Breakpoint.recount]

/-- The host after a list of reports. Which numbers are known stays the same on the way. -/
theorem foldl_countHits (reports : List (Int32 × Int32)) (h : Host) :
    reports.foldl (fun h (number, count) => countHits number count h) h =
      { h with
        breakpoints := ⟨h.breakpoints.entries.map (·.recountAll reports)⟩
        modified := h.modified ++ (reports.map Prod.fst).filter h.isTold } := by
  induction reports generalizing h with
  | nil => simp [Breakpoint.recountAll]
  | cons report reports ih =>
    obtain ⟨number, count⟩ := report
    have htold : (countHits number count h).isTold = h.isTold := by
      funext n
      simp [Host.isTold, countHits_eq, BreakpointTable.numbers]
    have hfilter : ((number, count) :: reports).map Prod.fst = [number] ++ reports.map Prod.fst :=
      rfl
    change reports.foldl _ (countHits number count h) = _
    rw [ih, htold, countHits_eq, List.map_map, List.append_assoc, ← List.filter_append, hfilter]
    rfl

/-- The numbers of the reports are those below both lengths. -/
theorem map_fst_zip (numbers counts : List Int32) :
    (numbers.zip counts).map Prod.fst = numbers.take counts.length := by
  induction numbers generalizing counts with
  | nil => simp
  | cons n numbers ih => cases counts <;> simp [ih]

theorem run_updateStatistics (numbers counts : List Int32) (d : Debugger) :
    (updateStatistics numbers counts).run d = .ok ()
      { d with
        host :=
          { d.host with
            breakpoints :=
              ⟨d.host.breakpoints.entries.map (·.recountAll (numbers.zip counts))⟩
            modified :=
              d.host.modified ++ (numbers.take counts.length).filter d.host.isTold } } := by
  rw [updateStatistics, run_modifyHost, foldl_countHits, map_fst_zip]

/-! ## The slots of a notification -/

/-- Slots that are not used say nothing. -/
theorem updateStatistics_slots (hlength : numbers.length = counts.length)
    (hfits : counts.length ≤ Notification.hitSlots) :
    updateStatistics (Notification.slots Notification.hitSlots (-1) numbers)
      (Notification.slots Notification.hitSlots 0 counts) = updateStatistics numbers counts := by
  have hunused : ∀ (slots : Nat) (h : Host),
      (List.replicate slots ((-1 : Int32), (0 : Int32))).foldl
        (fun h (number, count) => countHits number count h) h = h := by
    intro slots h
    induction slots with
    | zero => rfl
    | succ slots ih => exact ih
  unfold updateStatistics Notification.slots
  rw [hlength, List.take_of_length_le hfits, List.take_of_length_le (hlength.trans_le hfits),
    List.zip_append hlength, List.zip_replicate]
  simp only [List.foldl_append, hunused]

/-- **Hit counts after a report.** Reports of hits never fail, and change nothing but hit counts and
what the host is told. Of every breakpoint whose number is not negative and stands in the list,
below both lengths, the last count stays, and a count below zero is none; other breakpoints stay as
they are. The host is told once for every report about a breakpoint that it has, in the order of the
reports. If the lists are of one length and fit a notification, the packet of the notification says
the same as the notification. -/
theorem updateStatistics_counts (numbers counts : List Int32) :
    (∀ d, ∃ entries,
      (updateStatistics numbers counts).run d = .ok ()
        { d with
          host :=
            { d.host with
              breakpoints := ⟨entries⟩
              modified := d.host.modified ++ (numbers.take counts.length).filter fun number =>
                0 ≤ number ∧ number ∈ d.host.breakpoints.numbers } } ∧
        List.Forall₂ (Breakpoint.Recounted numbers counts) d.host.breakpoints.entries entries) ∧
      ∀ activeWaves, numbers.length = counts.length → counts.length ≤ Notification.hitSlots →
        ∃ n, Notification.decode (Notification.breakpointHit numbers counts activeWaves).encode =
            .ok n ∧
          dispatchNotification n =
            dispatchNotification (.breakpointHit numbers counts activeWaves) := by
  refine ⟨fun d => ⟨_, run_updateStatistics numbers counts d, ?_⟩, fun activeWaves hlength hfits =>
    ⟨_, Notification.decode_encode nofun, ?_⟩⟩
  · rw [List.forall₂_map_right_iff, List.forall₂_same]
    exact fun b _ => b.recounted_recountAll numbers counts
  · rw [Notification.carried, dispatchNotification, updateStatistics_slots hlength hfits,
      dispatchNotification]

/-- Three breakpoints, each of them hit once. -/
def hitOnce : Debugger where
  session := .ofConfig .standard fun _ _ => .error .noDebugInfo
  host :=
    { Host.empty with
      breakpoints := ⟨[1, 2, 3].map fun number =>
        { Breakpoint.ofRequest ⟨number, .any, .kernel "k"⟩ with hitCount := 1 }⟩ }
  world := .ofMemory ⟨.growing none, .const none⟩

/-- The first breakpoint is reported twice, the second one with a count below zero, the third one
not at all. -/
theorem last_count_stays :
    ∃ entries, (updateStatistics [1, -1, 2, 9, 1] [3, 5, -4, 6, 8]).run hitOnce = .ok ()
        { hitOnce with
          host := { hitOnce.host with breakpoints := ⟨entries⟩, modified := [1, 2, 1] } } ∧
      entries.map (·.hitCount) = [8, 0, 1] ∧
      ∃ n, Notification.decode
          (Notification.breakpointHit [1, -1, 2, 9, 1] [3, 5, -4, 6, 8] 4).encode = .ok n ∧
        dispatchNotification n =
          dispatchNotification (.breakpointHit [1, -1, 2, 9, 1] [3, 5, -4, 6, 8] 4) := by
  have hcounts := updateStatistics_counts [1, -1, 2, 9, 1] [3, 5, -4, 6, 8]
  obtain ⟨entries, hrun, -⟩ := hcounts.1 hitOnce
  have hhits : ((updateStatistics [1, -1, 2, 9, 1] [3, 5, -4, 6, 8]).final
      hitOnce).host.breakpoints.entries.map (·.hitCount) = [8, 0, 1] := by decide
  rw [final_of_ok hrun] at hhits
  exact ⟨entries, hrun, hhits, hcounts.2 4 rfl (by decide)⟩

end Op

end GpuDebug
