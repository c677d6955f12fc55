import GpuDebug.Packet.Capture
import Mathlib.Tactic.SplitIfs

/-!
# Texts on one line

What is shown about a notification takes one line, whatever the bytes of its texts are: line feeds
are escaped, and nothing else brings one in.

* `Text.OneLine`: there is no line feed in a text.
* `Quoted.oneLine_text`, `Quoted.oneLine_record`: quoted texts, and records of such texts.
* `Notification.oneLine_summary`: the main result.
-/

namespace GpuDebug

/-! ## Texts -/

/-- A text on one line. -/
def Text.OneLine (s : String) : Prop :=
  '\n' ∉ s.toList

instance (s : String) : Decidable (Text.OneLine s) :=
  inferInstanceAs (Decidable ('\n' ∉ s.toList))

namespace Text.OneLine

variable {s t : String}

theorem append (h : OneLine s) (h' : OneLine t) : OneLine (s ++ t) := by
  rw [OneLine, String.toList_append, List.mem_append, not_or]
  exact ⟨h, h'⟩

theorem intercalate (h : OneLine s) {ts : List String} (hts : ∀ t ∈ ts, OneLine t) :
    OneLine (s.intercalate ts) := by
  rw [OneLine, String.toList_intercalate]
  induction ts with
  | nil => exact List.not_mem_nil
  | cons t ts ih =>
    rw [List.forall_mem_cons] at hts
    cases ts with
    | nil =>
      rw [List.map_cons, List.map_nil, List.intercalate_singleton]
      exact hts.1
    | cons t' ts =>
      rw [List.map_cons, List.map_cons, List.intercalate_cons_cons, List.mem_append,
        List.mem_append, not_or, not_or]
      exact ⟨⟨hts.1, h⟩, ih hts.2⟩

theorem ofNat (n : Nat) : OneLine (toString n) := by
  intro hmem
  have hdigits : (toString n).toList = Nat.toDigits 10 n := Nat.toList_repr
  rw [hdigits] at hmem
  cases Nat.isDigit_of_mem_toDigits (by decide) (Nat.le_refl 10) hmem

theorem ofInt (i : Int) : OneLine (toString i) := by
  change OneLine i.repr
  rw [Int.repr_eq_if]
  split
  · exact ofNat _
  · exact append (by decide) (ofNat _)

theorem ofUInt32 (n : UInt32) : OneLine (toString n) := ofNat n.toNat

theorem ofUInt64 (n : UInt64) : OneLine (toString n) := ofNat n.toNat

theorem ofInt32 (n : Int32) : OneLine (toString n) := ofInt n.toInt

theorem ofBool (b : Bool) : OneLine (toString b) := by
  cases b <;> decide

theorem padRight (h : OneLine s) (width : Nat) : OneLine (Numeral.padRight width s) := by
  refine append h fun hmem => ?_
  rw [String.toList_ofList] at hmem
  cases List.eq_of_mem_replicate hmem

end Text.OneLine

theorem Numeral.lineFeed_notMem_hexLow (width n : Nat) : '\n' ∉ hexLow width n := by
  have hdigit : ∀ d < 16, hexDigit d ≠ '\n' := by decide
  induction width generalizing n with
  | zero => exact List.not_mem_nil
  | succ width ih =>
    rw [hexLow, List.mem_append, List.mem_singleton, not_or]
    exact ⟨ih _, (hdigit _ (Nat.mod_lt n (by decide))).symm⟩

/-! ## Quoted texts and records -/

namespace Quoted

open Text (OneLine)

/-- A line feed is escaped, and no other character is written as one. -/
theorem lineFeed_notMem_escape (c : Char) : '\n' ∉ escape c := by
  have hhex : '\n' ∉ (Numeral.hex c.toNat).toList := by
    rw [Numeral.hex, String.toList_ofList]
    exact Numeral.lineFeed_notMem_hexLow _ _
  unfold escape
  split_ifs with _ _ hline
  any_goals decide
  · simp [hhex]
  · exact fun hmem => hline (List.mem_singleton.mp hmem).symm

theorem oneLine_text (s : String) : OneLine (text s) := by
  refine .append (.append (by decide) fun hmem => ?_) (by decide)
  rw [String.toList_ofList] at hmem
  obtain ⟨c, -, hc⟩ := List.mem_flatMap.mp hmem
  exact lineFeed_notMem_escape c hc

theorem oneLine_list {values : List String} (h : ∀ value ∈ values, OneLine value) :
    OneLine (list values) :=
  .append (.append (by decide) (.intercalate (by decide) h)) (by decide)

theorem oneLine_call {name value : String} (hname : OneLine name) (hvalue : OneLine value) :
    OneLine (call name value) :=
  .append (.append (.append hname (by decide)) hvalue) (by decide)

/-- Fields that are named and shown on one line. -/
def OneLineFields (fields : List (String × String)) : Prop :=
  ∀ field ∈ fields, OneLine field.1 ∧ OneLine field.2

theorem OneLineFields.nil : OneLineFields [] := nofun

theorem OneLineFields.cons {name value : String} {others : List (String × String)}
    (hname : OneLine name) (hvalue : OneLine value) (h : OneLineFields others) :
    OneLineFields ((name, value) :: others) :=
  List.forall_mem_cons.mpr ⟨⟨hname, hvalue⟩, h⟩

theorem oneLine_record {name : String} {fields : List (String × String)} (hname : OneLine name)
    (h : OneLineFields fields) : OneLine (record name fields) := by
  refine .append (.append (.append hname (by decide)) (.intercalate (by decide) ?_)) (by decide)
  intro text htext
  obtain ⟨field, hfield, rfl⟩ := List.mem_map.mp htext
  exact .append (.append (h field hfield).1 (by decide)) (h field hfield).2

end Quoted

/-! ## Summaries -/

open Text (OneLine)

theorem Dim.oneLine_summary (d : Dim) : OneLine d.summary :=
  Quoted.oneLine_record (by decide) <| .cons (by decide) (.ofInt32 d.x) <|
    .cons (by decide) (.ofInt32 d.y) <| .cons (by decide) (.ofInt32 d.z) .nil

theorem Device.oneLine_summary (d : Device) : OneLine d.summary :=
  Quoted.oneLine_record (by decide) <| .cons (by decide) (Quoted.oneLine_text d.name) <|
    .cons (by decide) (.ofUInt64 _) <| .cons (by decide) (.ofUInt32 _) <|
    .cons (by decide) (.ofUInt32 _) <| .cons (by decide) (.ofUInt32 _) <|
    .cons (by decide) (.ofUInt32 _) <| .cons (by decide) (.ofUInt32 _) <|
    .cons (by decide) (.ofUInt32 _) <| .cons (by decide) (.ofBool _) .nil

theorem Notification.oneLine_hitTexts (numbers hits : List Int32) :
    ∀ text ∈ hitTexts numbers hits, OneLine text := by
  intro text htext
  obtain ⟨hit, -, rfl⟩ := List.mem_map.mp htext
  exact .append (.append (.ofInt32 hit.1) (by decide : OneLine "x")) (.ofInt32 hit.2)

/-- **A notification is shown on one line.** -/
theorem Notification.oneLine_summary (n : Notification) : OneLine n.summary := by
  have one : ∀ {name field value : String}, OneLine name → OneLine field → OneLine value →
      OneLine (Quoted.record name [(field, value)]) := fun hname hfield hvalue =>
    Quoted.oneLine_record hname (.cons hfield hvalue .nil)
  cases n with
  | newBinary kernel groupSize gridSize =>
    exact Quoted.oneLine_record (by decide) <| .cons (by decide) (Quoted.oneLine_text kernel) <|
      .cons (by decide) groupSize.oneLine_summary <|
      .cons (by decide) gridSize.oneLine_summary .nil
  | predispatch state hostThread =>
    have hstate : OneLine state.name := by cases state <;> decide
    exact Quoted.oneLine_record (by decide) <| .cons (by decide) hstate <|
      .cons (by decide) (.ofInt32 hostThread) .nil
  | startDebugThread thread => exact one (by decide) (by decide) (.ofInt32 thread)
  | breakpointHit numbers hits activeWaves =>
    refine .append (.append (by decide) (Quoted.oneLine_list (oneLine_hitTexts numbers hits))) ?_
    exact .append (by decide : OneLine " active_waves=") (.ofUInt32 activeWaves)
  | beginDebugging => exact (by decide : OneLine "BeginDebugging")
  | endDebugging dispatchCompleted => exact one (by decide) (by decide) (.ofBool _)
  | focusChange workGroup workItem =>
    exact Quoted.oneLine_record (by decide) <| .cons (by decide) workGroup.oneLine_summary <|
      .cons (by decide) workItem.oneLine_summary .nil
  | agentError code => exact one (by decide) (by decide) (.ofInt32 code)
  | killComplete successful => exact one (by decide) (by decide) (.ofBool _)
  | newActiveWaves count => exact one (by decide) (by decide) (.ofUInt32 count)
  | devices reported =>
    refine Quoted.oneLine_call (by decide) (Quoted.oneLine_list fun text htext => ?_)
    obtain ⟨d, -, rfl⟩ := List.mem_map.mp htext
    exact d.oneLine_summary
  | unknown tag => exact Quoted.oneLine_call (by decide) (.ofUInt32 tag)

end GpuDebug
