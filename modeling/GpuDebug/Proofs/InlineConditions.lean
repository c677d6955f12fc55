import GpuDebug.Breakpoint.Grammar
import GpuDebug.Proofs.ConditionForms
import GpuDebug.Proofs.Operation

/-!
# Conditions in the text of a location

A condition is given on its own, or behind the location in one text. The text is split at the first
` if `, which need not be where the location was meant to end: the location may end with a part of
the keyword, and the condition may hold the keyword again.

* `Grammar.splitCondition_append_iff`: a condition is split off where it was put, unless the
  location and the space behind it hold the keyword.
* `Grammar.parse_inline_condition`: the main result.
-/

namespace GpuDebug

/-- A text that starts with the keyword is not blank, so that a condition is made of it. -/
theorem Condition.text_of_parse_of_keyword {raw : String} {condition : Condition}
    (hraw : "if ".toList <+: raw.toList) (h : parse (some raw) = .ok condition) :
    condition.text = some raw := by
  obtain ⟨body, hbody⟩ := hraw
  have hopens : Opens raw.toList body := ⟨[], by decide, hbody.symm⟩
  rcases parse_ok_cases h with ⟨hblank, -⟩ | ⟨_, _, _, -, rfl⟩
  · exact absurd hblank hopens.not_blank
  · rfl

namespace Grammar

variable {g : Grammar} {number : Int32} {loc c : String}

/-- The blank behind the location is the first character of the keyword, and the letters of the
keyword do not end it. -/
theorem keyword_infix_iff {cs : List Char} :
    " if ".toList <:+: cs ++ [' ', 'i', 'f'] ↔ " if ".toList <:+: cs ++ [' '] := by
  have hkeyword : " if ".toList = [' ', 'i', 'f'] ++ [' '] := rfl
  have hletters : cs ++ [' ', 'i', 'f'] = cs ++ [' '] ++ ['i'] ++ ['f'] := by simp
  rw [hkeyword, hletters, Text.infix_concat_iff_of_ne (by decide),
    Text.infix_concat_iff_of_ne (by decide)]

theorem splitCondition_eq_some_iff {text : String} : splitCondition text = (loc, some c) ↔
    ∃ rest, c.toList = "if ".toList ++ rest ∧
      Text.FirstCut " if ".toList text.toList loc.toList rest := by
  have hblank : ∀ rest, Text.trimStart (" if ".toList ++ rest) = "if ".toList ++ rest := fun _ => rfl
  unfold splitCondition
  simp only [← Text.cut?_eq_some_iff_firstCut, hblank]
  cases Text.cut? " if ".toList text.toList with
  | none => simp
  | some parts =>
    simp only [Prod.mk.injEq, Option.some.injEq, ← String.toList_inj, String.toList_ofList]
    constructor
    · rintro ⟨hfront, hcondition⟩
      exact ⟨parts.2, hcondition.symm, Prod.ext hfront rfl⟩
    · rintro ⟨rest, hcondition, rfl⟩
      exact ⟨rfl, hcondition.symm⟩

theorem splitCondition_eq_self {text : String} (h : ¬ " if ".toList <:+: text.toList) :
    splitCondition text = (text, none) := by
  unfold splitCondition
  rw [Text.cut?_eq_none_iff_not_isInfix.mpr h]

/-- A condition is split off where it was put exactly if the keyword does not stand earlier. -/
theorem splitCondition_append_iff (hc : "if ".toList <+: c.toList) :
    splitCondition (loc ++ " " ++ c) = (loc, some c) ↔
      ¬ " if ".toList <:+: (loc ++ " ").toList := by
  obtain ⟨rest, hrest⟩ := hc
  have hkeyword : " if ".toList = [' ', 'i', 'f'] ++ [' '] := rfl
  have htext : (loc ++ " " ++ c).toList = loc.toList ++ " if ".toList ++ rest := by
    rw [String.toList_append, String.toList_append, ← hrest, List.append_assoc, List.append_assoc]
    rfl
  have hloc : (loc ++ " ").toList = loc.toList ++ [' '] := String.toList_append
  rw [splitCondition_eq_some_iff, htext, hloc, ← keyword_infix_iff, hkeyword,
    ← Text.firstCut_append_iff rest]
  constructor
  · rintro ⟨rest', hrest', hcut⟩
    rw [← hrest, List.append_cancel_left_eq] at hrest'
    rwa [hrest'] at hcut ⊢
  · intro hcut
    exact ⟨rest, hrest.symm, hcut⟩

/-- What is made of a text depends on its two parts. -/
theorem parse_of_splitCondition {text : String} {condition inline : Option String}
    (h : splitCondition text = (loc, inline)) : g.parse number text condition = (do
      let location ← g.parseLocation loc
      let condition ← Condition.parse (condition <|> inline)
      return ⟨number, condition, location⟩) := by
  rw [parse, h]

/-- A request keeps the text of its condition. -/
theorem text_of_parse {r : Request} (hc : "if ".toList <+: c.toList)
    (h : g.parse number loc (some c) = .ok r) : r.condition.text = some c := by
  obtain ⟨front, inline, hsplit⟩ : ∃ front inline, splitCondition loc = (front, inline) :=
    ⟨_, _, rfl⟩
  rw [parse_of_splitCondition hsplit] at h
  obtain ⟨location, -, h⟩ := except_bind_eq_ok h
  obtain ⟨condition, hcondition, h⟩ := except_bind_eq_ok h
  cases h
  exact Condition.text_of_parse_of_keyword hc hcondition

/-- **Conditions in the text of a location mean the same as separate ones.** A condition that starts
with the keyword may be written behind the location, and gives the same request, with the same text
of the condition, or the same error. This holds for all locations that do not hold the keyword
between blanks, also with the blank before the condition; behind others the text is split
elsewhere. -/
theorem parse_inline_condition (g : Grammar) (number : Int32) (loc c : String)
    (hc : "if ".toList <+: c.toList) :
    (splitCondition (loc ++ " " ++ c) = (loc, some c) ↔
      ¬ " if ".toList <:+: (loc ++ " ").toList) ∧
    (¬ " if ".toList <:+: (loc ++ " ").toList →
      g.parse number (loc ++ " " ++ c) none = g.parse number loc (some c) ∧
      ∀ r, g.parse number loc (some c) = .ok r → r.condition.text = some c) := by
  refine ⟨splitCondition_append_iff hc, fun h => ⟨?_, fun r => text_of_parse hc⟩⟩
  have hloc : ¬ " if ".toList <:+: loc.toList := by
    intro hearlier
    rw [String.toList_append] at h
    exact h (hearlier.trans (List.prefix_append _ _).isInfix)
  rw [parse_of_splitCondition ((splitCondition_append_iff hc).mpr h),
    parse_of_splitCondition (splitCondition_eq_self hloc)]
  rfl

/-- The location ends with a part of the keyword, and the condition holds the keyword again. -/
theorem parse_inline_condition_of_fragments :
    (⟨"rocm", "a.cu"⟩ : Grammar).parse 1 "rocm:x i if wg:1,2,3 wi:4,5,6 if wg:7,7,7" none =
        (⟨"rocm", "a.cu"⟩ : Grammar).parse 1 "rocm:x i"
          (some "if wg:1,2,3 wi:4,5,6 if wg:7,7,7") ∧
      (⟨"rocm", "a.cu"⟩ : Grammar).parse 1 "rocm:x i" (some "if wg:1,2,3 wi:4,5,6 if wg:7,7,7") =
        .ok ⟨1, ⟨some "if wg:1,2,3 wi:4,5,6 if wg:7,7,7", .equal, ⟨1, 2, 3⟩, ⟨4, 5, 6⟩⟩,
          .kernel "x i"⟩ := by
  have hc : "if ".toList <+: "if wg:1,2,3 wi:4,5,6 if wg:7,7,7".toList := by decide
  have hloc : ¬ " if ".toList <:+: ("rocm:x i" ++ " ").toList :=
    Text.cut?_eq_none_iff_not_isInfix.mp rfl
  have h := ((parse_inline_condition ⟨"rocm", "a.cu"⟩ 1 "rocm:x i" _ hc).2 hloc).1
  exact ⟨h, rfl⟩

end Grammar

end GpuDebug
