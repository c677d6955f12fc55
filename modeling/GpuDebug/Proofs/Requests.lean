import GpuDebug.Breakpoint.Grammar
import GpuDebug.Proofs.Trimming

/-!
# Requests that the grammar makes

* `Grammar.parse_eq_ok`: the parts of a request.
* `Location.Named`: a target is there, and a kernel has a name; `Grammar.named_parse` says that the
  grammar gives no other targets.
-/

namespace GpuDebug

/-- There is a target, and if it is the entry of a kernel, the kernel has a name. -/
def Location.Named : Location → Prop
  | unknown => False
  | kernel name | anywhere name => name ≠ ""
  | source _ _ _ => True

theorem Request.isUnknown_of_named {r : Request} (h : r.location.Named) : r.isUnknown = false := by
  unfold isUnknown kind
  cases hr : r.location with
  | unknown =>
    rw [hr] at h
    exact h.elim
  | _ => rfl

theorem Request.named_of_source {r : Request} (h : r.kind = .source) : r.location.Named := by
  unfold kind at h
  cases hr : r.location with
  | source file line statement => trivial
  | _ =>
    rw [hr] at h
    cases h

namespace Grammar

variable {g : Grammar} {number : Int32} {text : String} {condition : Option String} {r : Request}

theorem parse_eq_ok (h : g.parse number text condition = .ok r) :
    r.number = number ∧ g.parseLocation (splitCondition text).1 = .ok r.location := by
  unfold parse at h
  dsimp only at h
  cases hlocation : g.parseLocation (splitCondition text).1 with
  | error e =>
    rw [hlocation] at h
    cases h
  | ok location =>
    cases hcondition : Condition.parse (condition <|> (splitCondition text).2) with
    | error e =>
      rw [hlocation, hcondition] at h
      cases h
    | ok parsed =>
      rw [hlocation, hcondition] at h
      cases h
      exact ⟨rfl, rfl⟩

theorem named_anyKernel : (Location.anywhere Location.anyKernel).Named := by
  unfold Location.Named Location.anyKernel
  simp

theorem named_parseTarget {rest : List Char} {location : Location}
    (h : g.parseTarget (Text.trimStart rest) = .ok location) : location.Named := by
  unfold parseTarget at h
  by_cases hnil : Text.trimStart rest = []
  · rw [hnil] at h
    cases h
    exact named_anyKernel
  · have hname : Text.trim rest ≠ [] := by
      rwa [ne_eq, Text.trim_eq_nil_iff, ← Text.trimStart_eq_nil_iff]
    obtain ⟨c, others, hcons⟩ := List.exists_cons_of_ne_nil hnil
    rw [Text.trim, hcons] at hname
    rw [hcons] at h
    simp only [List.isEmpty_cons, Bool.false_eq_true, if_false] at h
    cases hvalue : CInteger.value? (c :: others) with
    | some line =>
      rw [hvalue] at h
      cases h
      trivial
    | none =>
      rw [hvalue] at h
      dsimp only at h
      cases hcut : Text.cut? [':'] (c :: others) with
      | none =>
        rw [hcut] at h
        cases h
        unfold Location.Named
        simpa using hname
      | some parts =>
        rw [hcut] at h
        dsimp only at h
        split at h
        · cases h
        · split at h
          · cases h
          · cases h
            trivial

theorem named_location {cs : List Char} {location : Location} (h : g.location cs = .ok location) :
    location.Named := by
  unfold Grammar.location at h
  split at h
  · cases h
  · dsimp only at h
    split at h
    · cases h
      exact named_anyKernel
    · split at h
      · cases h
      · exact named_parseTarget h

/-- The grammar gives targets that a command can carry. -/
theorem named_parse (h : g.parse number text condition = .ok r) : r.location.Named := by
  have hlocation := (parse_eq_ok h).2
  unfold parseLocation at hlocation
  cases hparsed : g.location (splitCondition text).1.toList with
  | error fault =>
    rw [hparsed] at hlocation
    cases hlocation
  | ok location =>
    rw [hparsed] at hlocation
    have hsame : location = r.location := Except.ok.inj hlocation
    rw [← hsame]
    exact named_location hparsed

end Grammar

end GpuDebug
