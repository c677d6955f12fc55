import GpuDebug.Focus
import GpuDebug.Proofs.ConditionForms
import GpuDebug.Proofs.Utf8

/-!
# The arguments of the focus command

The focus command refuses short texts before it looks for its two coordinates. Behind the keyword of
a condition the same coordinates are looked for without such a check. The check makes no difference:
characters that are not blank survive trimming, and an argument has at least eight of them.

* `Dim.inked_of_argument?`: the characters of a text in which an argument is found.
* `Condition.parse_behind_keyword`: what a condition makes of the text behind its keyword.
* `Focus.parse_iff_condition`: the main result.
-/

namespace GpuDebug

/-! ## Characters that are not blank -/

namespace Text

variable {cs : List Char}

/-- The number of characters that are not blank. -/
def inked (cs : List Char) : Nat :=
  cs.countP (!isBlank ·)

theorem inked_append (front back : List Char) : inked (front ++ back) = inked front + inked back :=
  List.countP_append

theorem inked_cons {c : Char} (hc : isBlank c = false) (cs : List Char) :
    inked (c :: cs) = inked cs + 1 :=
  List.countP_cons_of_pos (by rw [hc]; rfl)

theorem inked_of_blank (h : Blank cs) : inked cs = 0 :=
  List.countP_eq_zero.mpr fun c hc => by rw [h c hc]; decide

theorem inked_le_length (cs : List Char) : inked cs ≤ cs.length :=
  List.countP_le_length

/-- Trimming takes away blanks only. -/
theorem inked_trim (cs : List Char) : inked (trim cs) = inked cs := by
  obtain ⟨before, after, hbefore, hafter, hcs⟩ := (around_trim cs).surrounded
  have hink := congrArg inked hcs
  rw [inked_append, inked_append, inked_of_blank hbefore, inked_of_blank hafter, Nat.zero_add,
    Nat.add_zero] at hink
  exact hink.symm

end Text

/-- Every character has a byte. -/
theorem Utf8.length_le_length_encode (cs : List Char) : cs.length ≤ (encode cs).length := by
  induction cs with
  | nil => exact Nat.le_refl 0
  | cons c cs ih =>
    rw [length_encode_cons, List.length_cons, Nat.add_comm]
    exact Nat.add_le_add c.utf8Size_pos ih

/-! ## Arguments -/

namespace Dim

open Text (inked)

variable {cs spelled name : List Char} {v : Int32} {d : Dim}

/-- A component has a digit. -/
theorem Component.inked_pos (h : Component cs v) : 1 ≤ inked cs := by
  obtain @⟨blanks, digits, n, -, hdigits, -⟩ := h
  cases digits with
  | nil => exact absurd rfl hdigits.ne_nil
  | cons c digits =>
    rw [Text.inked_append, Text.inked_cons (hdigits.decimal c List.mem_cons_self).2]
    omega

/-- A coordinate has three digits and two commas. -/
theorem Coordinate.le_inked (h : Coordinate cs d) : 5 ≤ inked cs := by
  obtain ⟨hx, hblanks, hy, hblanks', hz⟩ := h
  have hcomma : Text.isBlank ',' = false := rfl
  have hx := hx.inked_pos
  have hy := hy.inked_pos
  have hz := hz.inked_pos
  simp only [Text.inked_append, Text.inked_cons hcomma, Text.inked_of_blank hblanks,
    Text.inked_of_blank hblanks']
  omega

/-- An argument has a colon, too. -/
theorem Argument.le_inked (h : Argument name spelled d) : inked name + 6 ≤ inked spelled := by
  obtain ⟨hblanks, hcoordinate⟩ := h
  have hcolon : Text.isBlank ':' = false := rfl
  have hcoordinate := hcoordinate.le_inked
  simp only [Text.inked_append, Text.inked_cons hcolon, Text.inked_of_blank hblanks]
  omega

/-- A text in which an argument is found has the characters of the argument. -/
theorem inked_of_argument? {text name : String} {c : Char} {letters : List Char}
    (hname : name.toList = c :: letters) (hc : Text.isBlank c = false)
    (h : argument? text name = some d) : inked name.toList + 6 ≤ inked text.toList := by
  obtain ⟨front, spelled, back, hfound⟩ := (argument?_eq_some_iff hname hc).mp h
  have hargument := hfound.argument.le_inked
  rw [hname, hfound.split, Text.inked_append, Text.inked_append]
  omega

end Dim

/-- What a condition makes of the text behind its keyword. -/
theorem Condition.parse_behind_keyword (body : String) : parse (some ("if " ++ body)) =
    match Dim.argument? body "wg", Dim.argument? body "wi" with
    | some workGroup, some workItem => .ok ⟨some ("if " ++ body), .equal, workGroup, workItem⟩
    | _, _ => .error (noCoordinates body.toList) := by
  have hopens : Opens ("if " ++ body).toList body.toList :=
    ⟨[], by decide, String.toList_append⟩
  unfold parse
  cases hgroup : Dim.argument? body "wg" <;> cases hitem : Dim.argument? body "wi" <;>
    simp only [all_isBlank_iff, hopens.not_blank, if_false, opens_iff.mp hopens,
      String.ofList_toList, hgroup, hitem]

/-! ## The focus command -/

namespace Focus

variable {arguments : String} {d e : Dim}

/-- A text in which one of the arguments is found is long enough. -/
theorem shortest_le {name : String} (hname : name = "wg" ∨ name = "wi")
    (h : Dim.argument? arguments name = some d) :
    shortest ≤ (Utf8.encode (Text.trim arguments.toList)).length := by
  have hink : 2 + 6 ≤ Text.inked arguments.toList := by
    rcases hname with rfl | rfl
    · exact Dim.inked_of_argument? (c := 'w') rfl rfl h
    · exact Dim.inked_of_argument? (c := 'w') rfl rfl h
  calc shortest ≤ Text.inked (Text.trim arguments.toList) := by rwa [Text.inked_trim]
    _ ≤ (Text.trim arguments.toList).length := Text.inked_le_length _
    _ ≤ (Utf8.encode (Text.trim arguments.toList)).length := Utf8.length_le_length_encode _

/-- The focus is read exactly if both arguments are found. -/
theorem parse_eq_ok_iff : parse arguments = .ok ⟨d, e⟩ ↔
    Dim.argument? arguments "wg" = some d ∧ Dim.argument? arguments "wi" = some e := by
  unfold parse
  constructor
  · intro h
    by_cases hshort : (Utf8.encode (Text.trim arguments.toList)).length < shortest
    · rw [if_pos hshort] at h
      cases h
    · rw [if_neg hshort] at h
      cases hgroup : Dim.argument? arguments "wg" with
      | none => simp [hgroup] at h
      | some workGroup =>
        cases hitem : Dim.argument? arguments "wi" with
        | none => simp [hgroup, hitem] at h
        | some workItem =>
          simp only [hgroup, hitem] at h
          cases h
          exact ⟨rfl, rfl⟩
  · rintro ⟨hgroup, hitem⟩
    rw [if_neg (Nat.not_lt_of_le (shortest_le (.inl rfl) hgroup)), hgroup, hitem]
    rfl

/-- The condition behind the keyword is on the two arguments that are found. -/
theorem condition_iff :
    (∃ c, Condition.parse (some ("if " ++ arguments)) = .ok c ∧ c.code = .equal ∧
      c.workGroup = d ∧ c.workItem = e) ↔
    Dim.argument? arguments "wg" = some d ∧ Dim.argument? arguments "wi" = some e := by
  rw [Condition.parse_behind_keyword]
  cases Dim.argument? arguments "wg" with
  | none => simp
  | some workGroup =>
    cases Dim.argument? arguments "wi" with
    | none => simp
    | some workItem => simp

/-- Whatever is behind the keyword, it gives a condition on one work-item or an error. -/
theorem condition_cases (arguments : String) :
    (∃ c d e, Condition.parse (some ("if " ++ arguments)) = .ok c ∧ c.code = .equal ∧
      c.workGroup = d ∧ c.workItem = e) ∨
    ∃ detail, Condition.parse (some ("if " ++ arguments)) = .error (.conditionText detail) := by
  rw [Condition.parse_behind_keyword]
  split
  · exact .inl ⟨_, _, _, rfl, rfl, rfl, rfl⟩
  · exact .inr ⟨_, rfl⟩

/-- **The focus command reads what a condition reads.** The arguments of the focus command give a
work-group and a work-item exactly if the same text behind the keyword is a condition on them, and
the command refuses them exactly if the condition is refused. In particular no condition is made of
the texts that the command refuses because they have less than eight bytes without the blanks around
them. -/
theorem parse_iff_condition (arguments : String) :
    (∀ workGroup workItem, parse arguments = .ok ⟨workGroup, workItem⟩ ↔
      ∃ c, Condition.parse (some ("if " ++ arguments)) = .ok c ∧ c.code = .equal ∧
        c.workGroup = workGroup ∧ c.workItem = workItem) ∧
    ((∃ e, parse arguments = .error e) ↔
      ∃ detail, Condition.parse (some ("if " ++ arguments)) = .error (.conditionText detail)) ∧
    ((Utf8.encode (Text.trim arguments.toList)).length < 8 →
      ∃ detail, Condition.parse (some ("if " ++ arguments)) = .error (.conditionText detail)) := by
  have hsame : ∀ workGroup workItem, parse arguments = .ok ⟨workGroup, workItem⟩ ↔
      ∃ c, Condition.parse (some ("if " ++ arguments)) = .ok c ∧ c.code = .equal ∧
        c.workGroup = workGroup ∧ c.workItem = workItem := fun _ _ =>
    parse_eq_ok_iff.trans condition_iff.symm
  refine ⟨hsame, ⟨?_, ?_⟩, fun hshort => ?_⟩
  · rintro ⟨e, herror⟩
    rcases condition_cases arguments with ⟨c, d, e, hcondition⟩ | hrefused
    · cases herror.symm.trans ((hsame d e).mpr ⟨c, hcondition⟩)
    · exact hrefused
  · rintro ⟨detail, hrefused⟩
    cases hparse : parse arguments with
    | error e => exact ⟨e, rfl⟩
    | ok f =>
      obtain ⟨c, hcondition, -⟩ := (hsame f.workGroup f.workItem).mp hparse
      cases hrefused.symm.trans hcondition
  · rcases condition_cases arguments with ⟨c, d, e, hcondition⟩ | hrefused
    · obtain ⟨hgroup, -⟩ := condition_iff.mp ⟨c, hcondition⟩
      exact absurd hshort (Nat.not_lt_of_le (shortest_le (.inl rfl) hgroup))
    · exact hrefused

/-- Seven bytes without the blanks around them. -/
theorem short_text_is_no_condition :
    (Utf8.encode (Text.trim " wg:0,0, ".toList)).length < 8 ∧
      ∃ detail, Condition.parse (some "if  wg:0,0, ") = .error (.conditionText detail) := by
  have hshort : (Utf8.encode (Text.trim " wg:0,0, ".toList)).length < 8 := by decide
  exact ⟨hshort, (parse_iff_condition " wg:0,0, ").2.2 hshort⟩

end Focus

end GpuDebug
