import GpuDebug.Proofs.Operation
import Mathlib.Data.List.Induction

/-!
# Translating addresses

Addresses of a code object and of the process are translated into each other by the first segment
of the load map that is flagged as executing. The load map is given by calls, one after the other;
reading it may fail, and then nothing changes.

* `SegmentTable.Call`: a call that changes the load map; `SegmentTable.after`, what many of them
  leave. `SegmentTable.Call.run_refreshSegments` says that a session makes such calls.
* `SegmentTable.inForce`: the segments that were given last.
* `SegmentTable.after_eq_ofSegments`: these are the ones by which addresses are translated.
* `SegmentTable.executing_after`: the one that executes stands at the first flagged position.
* `SegmentTable.translation_after`: the main result.
-/

namespace GpuDebug.SegmentTable

/-! ## Calls -/

/-- A call that changes the load map. -/
inductive Call
  | load (segments : List Segment)
  /-- Takes the load map from its region, which may not exist and may not be readable. -/
  | refresh (region : Except Error (Option Bytes))
  | reset

/-- The segments that a region lists; one that does not exist lists none. -/
def listed (region : Except Error (Option Bytes)) : Except Error (List Segment) := do
  match ← region with
  | none => return []
  | some raw => Segment.decodeMap.decode raw

theorem bind_ofRegion (region : Except Error (Option Bytes)) :
    region >>= ofRegion = ofSegments <$> listed region := by
  rcases region with e | _ | raw <;> rfl

namespace Call

/-- What a call does. -/
def perform : Call → EStateM Error SegmentTable Unit
  | load segments => set (ofSegments segments)
  | refresh region => do set (← MonadExcept.ofExcept (region >>= ofRegion))
  | reset => set empty

/-- The load map behind a call, whether it fails or not. -/
def run (c : Call) (t : SegmentTable) : SegmentTable :=
  match c.perform.run t with
  | .ok _ t' => t'
  | .error _ t' => t'

/-- The segments that a call gives, if it gives any. -/
def given? : Call → Option (List Segment)
  | load segments => some segments
  | refresh region => (listed region).toOption
  | reset => some []

theorem run_perform_refresh (region : Except Error (Option Bytes)) (t : SegmentTable) :
    (refresh region).perform.run t =
      match listed region with
      | .ok segments => .ok () (ofSegments segments)
      | .error e => .error e t := by
  dsimp only [perform]
  rw [bind_ofRegion]
  cases listed region <;> rfl

/-- A session reads its load map by such a call. -/
theorem run_refreshSegments (d : Debugger) :
    Op.refreshSegments.run d =
      match (refresh (.ok (d.world.memory.read .loadMap))).perform.run d.session.segments with
      | .ok _ segments => .ok () { d with session := { d.session with segments } }
      | .error e _ => .error e d := by
  have hregion : ofRegion (d.world.memory.read .loadMap) =
      ofSegments <$> listed (.ok (d.world.memory.read .loadMap)) := bind_ofRegion (.ok _)
  unfold Op.refreshSegments
  rw [run_perform_refresh, EStateM.run_bind, Op.run_world]
  dsimp only
  rw [hregion]
  cases listed (.ok (d.world.memory.read .loadMap)) <;> rfl

/-- A call puts the segments in force that it gives. -/
theorem run_eq (c : Call) (t : SegmentTable) :
    c.run t = match c.given? with
      | some segments => ofSegments segments
      | none => t := by
  cases c with
  | load segments => rfl
  | refresh region =>
    rw [run, run_perform_refresh, given?]
    cases listed region <;> rfl
  | reset => rfl

end Call

/-- The load map after some calls. -/
def after (calls : List Call) : SegmentTable :=
  calls.foldl (fun t c => c.run t) empty

/-- The segments that were given last. -/
def inForce (calls : List Call) : List Segment :=
  (calls.filterMap Call.given?).getLast?.getD []

theorem inForce_concat (calls : List Call) (c : Call) :
    inForce (calls ++ [c]) = c.given?.getD (inForce calls) := by
  unfold inForce
  rw [List.filterMap_append]
  cases h : c.given? with
  | none => simp [h]
  | some segments => simp [h]

/-- The load map is made of the segments that were given last. -/
theorem after_eq_ofSegments (calls : List Call) : after calls = ofSegments (inForce calls) := by
  induction calls using List.reverseRecOn with
  | nil => rfl
  | append_singleton calls c ih =>
    rw [after, List.foldl_append, List.foldl_cons, List.foldl_nil, ← after, ih, Call.run_eq,
      inForce_concat]
    cases c.given? <;> rfl

/-! ## Both ways -/

/-- The first of the segments that is flagged as executing. -/
def FirstExecuting (segments : List Segment) (s : Segment) : Prop :=
  ∃ front back, segments = front ++ s :: back ∧ s.isExecuted = true ∧
    ∀ r ∈ front, r.isExecuted = false

variable {segments : List Segment} {s : Segment} {t : SegmentTable}

theorem executing_eq_some_iff :
    (ofSegments segments).executing = some s ↔ FirstExecuting segments s := by
  change segments.find? (·.isExecuted) = some s ↔ _
  simp only [List.find?_eq_some_iff_append, Bool.not_eq_true', FirstExecuting]
  constructor
  · rintro ⟨hexecuted, front, back, hsegments, hfront⟩
    exact ⟨front, back, hsegments, hexecuted, hfront⟩
  · rintro ⟨front, back, hsegments, hexecuted, hfront⟩
    exact ⟨hexecuted, front, back, hsegments, hfront⟩

theorem executing_eq_none_iff :
    (ofSegments segments).executing = none ↔ ∀ s ∈ segments, s.isExecuted = false := by
  change segments.find? (·.isExecuted) = none ↔ _
  simp only [List.find?_eq_none, Bool.not_eq_true]

/-- The executing segment can be kept as its position among the segments. -/
theorem getElem?_findIdx?_isExecuted (segments : List Segment) :
    (segments.findIdx? (·.isExecuted)).bind (segments[·]?) = (ofSegments segments).executing := by
  change _ = segments.find? (·.isExecuted)
  induction segments with
  | nil => rfl
  | cons s segments ih =>
    rw [List.findIdx?_cons, List.find?_cons]
    cases s.isExecuted with
    | true => rfl
    | false =>
      rw [if_neg Bool.false_ne_true, Option.bind_map, ← ih]
      rfl

/-- After any calls, the executing segment stands at the first position that is flagged. -/
theorem executing_after (calls : List Call) :
    (after calls).executing =
      ((after calls).segments.findIdx? (·.isExecuted)).bind ((after calls).segments[·]?) := by
  rw [after_eq_ofSegments]
  exact (getElem?_findIdx?_isExecuted (inForce calls)).symm

/-- All addresses are translated by the segment `s`, and the two translations undo each other. -/
structure TranslatesBy (t : SegmentTable) (s : Segment) : Prop where
  toProcess : ∀ address, t.toProcess address = .ok (address - s.codeBase + s.base)
  toCode : ∀ address, t.toCode address = .ok (address - s.base + s.codeBase)
  inverse : ∀ code process, t.toProcess code = .ok process ↔ t.toCode process = .ok code

theorem translatesBy_of_executing (h : t.executing = some s) : t.TranslatesBy s := by
  have hprocess : ∀ address, t.toProcess address = .ok (address - s.codeBase + s.base) := by
    intro address
    rw [SegmentTable.toProcess, h]
  have hcode : ∀ address, t.toCode address = .ok (address - s.base + s.codeBase) := by
    intro address
    rw [SegmentTable.toCode, h]
  refine ⟨hprocess, hcode, fun code process => ?_⟩
  rw [hprocess, hcode, Except.ok.injEq, Except.ok.injEq]
  constructor
  · rintro rfl
    rw [UInt64.add_sub_cancel, UInt64.sub_add_cancel]
  · rintro rfl
    rw [UInt64.add_sub_cancel, UInt64.sub_add_cancel]

theorem translations_of_executing_eq_none (h : t.executing = none) (address : UInt64) :
    t.toProcess address = .error .noExecutingSegment ∧
      t.toCode address = .error .noExecutingSegment := by
  rw [SegmentTable.toProcess, SegmentTable.toCode, h]
  exact ⟨rfl, rfl⟩

/-- **Translating addresses.** After any calls, addresses are translated by the segments that were
given last: by the first of them that is flagged as executing, both ways, so that the two
translations undo each other on all addresses; where none is flagged, both fail. Reading the load
map again either takes over what the region lists, whatever was there before, or fails and leaves
everything as it was. -/
theorem translation_after (calls : List Call) :
    let t := after calls
    let segments := inForce calls
    t.segments = segments ∧
      ((∃ s ∈ segments, s.isExecuted = true) →
        ∃ s, FirstExecuting segments s ∧ t.executing = some s ∧ t.TranslatesBy s) ∧
      ((∀ s ∈ segments, s.isExecuted = false) → t.executing = none ∧ ∀ address,
        t.toProcess address = .error .noExecutingSegment ∧
          t.toCode address = .error .noExecutingSegment) ∧
      ∀ region,
        match (Call.refresh region).perform.run t with
        | .ok _ t' => listed region = .ok t'.segments ∧
            ∀ earlier, (Call.refresh region).perform.run earlier = .ok () t'
        | .error _ t' => t' = t := by
  intro t segments
  have ht : t = ofSegments segments := after_eq_ofSegments calls
  rw [ht]
  refine ⟨rfl, fun ⟨r, hr, hflagged⟩ => ?_, fun hnone => ?_, fun region => ?_⟩
  · have hsome : (ofSegments segments).executing ≠ none := fun hnone =>
      Bool.false_ne_true ((executing_eq_none_iff.mp hnone r hr).symm.trans hflagged)
    obtain ⟨s, hs⟩ := Option.ne_none_iff_exists'.mp hsome
    exact ⟨s, executing_eq_some_iff.mp hs, hs, translatesBy_of_executing hs⟩
  · have hexecuting := executing_eq_none_iff.mpr hnone
    exact ⟨hexecuting, translations_of_executing_eq_none hexecuting⟩
  · rw [Call.run_perform_refresh]
    cases hlisted : listed region with
    | ok given =>
      refine ⟨rfl, fun earlier => ?_⟩
      rw [Call.run_perform_refresh, hlisted]
    | error e => rfl

/-- The second of three segments translates, around the end of the addresses; a load map that is cut
short does not change that, and where no segment is flagged nothing is translated. -/
theorem translation_after_failed_refresh :
    let segment (codeBase base : UInt64) (executed : Bool) : Segment :=
      ⟨0, 0, 0, 0, 0, 0, base, 0x1000, codeBase, executed⟩
    let middle := segment 0x100 0xffffffffffffff80 true
    let loaded := [segment 0 0x10 false, middle, segment 0 0x20 true]
    let unflagged := [segment 0 0x10 false]
    let t := after [.reset, .load loaded, .refresh (.ok (some [1]))]
    t.executing = some middle ∧ t.toProcess 0x180 = .ok 0 ∧ t.toCode 0 = .ok 0x180 ∧
      (after [.load loaded, .load unflagged]).toProcess 0x180 = .error .noExecutingSegment := by
  intro segment middle loaded unflagged t
  obtain ⟨-, hexecuting, -⟩ := translation_after [.reset, .load loaded, .refresh (.ok (some [1]))]
  obtain ⟨-, -, hnone, -⟩ := translation_after [.load loaded, .load unflagged]
  have hforce : inForce [.reset, .load loaded, .refresh (.ok (some [1]))] = loaded := rfl
  have hforce' : inForce [.load loaded, .load unflagged] = unflagged := rfl
  rw [hforce] at hexecuting
  rw [hforce'] at hnone
  obtain ⟨s, -, hs, htranslates⟩ := hexecuting ⟨middle, by decide, rfl⟩
  have hmiddle : t.executing = some middle := by
    change (after _).executing = _
    rw [after_eq_ofSegments, hforce]
    rfl
  obtain rfl : s = middle := Option.some.inj (hs.symm.trans hmiddle)
  have haround : (0x180 - 0x100 + 0xffffffffffffff80 : UInt64) = 0 := by decide
  have hprocess : t.toProcess 0x180 = .ok 0 :=
    (htranslates.toProcess 0x180).trans (congrArg Except.ok haround)
  have hunflagged : ∀ s ∈ unflagged, s.isExecuted = false := by decide
  exact ⟨hs, hprocess, (htranslates.inverse 0x180 0).mp hprocess, ((hnone hunflagged).2 0x180).1⟩

end GpuDebug.SegmentTable
