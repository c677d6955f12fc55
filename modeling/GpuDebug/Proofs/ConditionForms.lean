import GpuDebug.Breakpoint.Condition
import GpuDebug.Proofs.ArgumentForms

/-!
# The forms of a condition

A condition is written with the keyword and two arguments. What reads it looks for the first
occurrence of each name, so that it also accepts texts that hold more than this.

* `Dim.Argument.behind`: two arguments with names of two letters, the first of them `w`, do not
  overlap.
* `Condition.Pair`, `Condition.Leaves`: the arguments that are found, and what a text holds besides
  them. `Condition.arguments_iff` says that this is what is accepted.
* `Condition.Row`, `Condition.Form`: the texts that hold nothing else; `Condition.form_iff` says
  that these are those that leave only blanks.
* `Condition.parse_fully_checked_iff`: the main result.
-/

namespace GpuDebug

open Text (Blank)
open Dim (Argument Found)

variable {p q : Char} {front spelled back before between rest left left' : List Char} {d e : Dim}

/-! ## The letter of the names -/

namespace Dim

/-- Coordinates are made of digits, commas and blanks. -/
theorem Component.notMem {cs : List Char} {v : Int32} (h : Component cs v) {c : Char}
    (hblank : Text.isBlank c = false) (hdigit : c.isDigit = false) : c ∉ cs := by
  obtain ⟨hblanks, hdigits, -⟩ := h
  rw [List.mem_append, not_or]
  refine ⟨hblanks.notMem hblank, fun hmem => ?_⟩
  exact Bool.false_ne_true (hdigit.symm.trans (hdigits.decimal c hmem).1)

theorem Coordinate.notMem {cs : List Char} (h : Coordinate cs d) {c : Char}
    (hblank : Text.isBlank c = false) (hdigit : c.isDigit = false) (hcomma : c ≠ ',') : c ∉ cs := by
  obtain ⟨hx, hblanks, hy, hblanks', hz⟩ := h
  simp [hx.notMem hblank hdigit, hy.notMem hblank hdigit, hz.notMem hblank hdigit,
    hblanks.notMem hblank, hblanks'.notMem hblank, hcomma]

namespace Argument

theorem length_pos {name : List Char} (h : Argument name spelled d) : 0 < spelled.length := by
  obtain ⟨-, -⟩ := h
  simp only [List.length_append, List.length_cons]
  omega

theorem notMem {name : List Char} (h : Argument name spelled d) {c : Char}
    (hblank : Text.isBlank c = false) (hdigit : c.isDigit = false)
    (hmarks : c ∉ ',' :: ':' :: name) : c ∉ spelled := by
  obtain ⟨hblanks, hcoordinate⟩ := h
  simp only [List.mem_cons, not_or] at hmarks
  simp [hmarks, hblanks.notMem hblank, hcoordinate.notMem hblank hdigit hmarks.1]

/-- The letter stands at the start of an argument, and nowhere else in it. -/
theorem letters (h : Argument ['w', p] spelled d) (hp : p ≠ 'w') :
    ∃ tail, spelled = 'w' :: p :: tail ∧ 'w' ∉ p :: tail := by
  obtain ⟨hblanks, hcoordinate⟩ := h
  refine ⟨_, rfl, ?_⟩
  have hletter : Text.isBlank 'w' = false := rfl
  simp [hp.symm, hblanks.notMem hletter, hcoordinate.notMem hletter rfl (by decide)]

/-- An occurrence of the other name that does not stand before an argument stands behind it. -/
theorem behind (h : Argument ['w', p] spelled d) (hp : p ≠ 'w') (hpq : p ≠ q)
    (hle : before.length ≤ front.length)
    (heq : before ++ (spelled ++ rest) = front ++ 'w' :: q :: back) :
    ∃ between, front = before ++ (spelled ++ between) ∧ rest = between ++ 'w' :: q :: back := by
  obtain ⟨tail, rfl, htail⟩ := h.letters hp
  obtain ⟨between, rfl⟩ : before <+: front :=
    List.prefix_of_prefix_length_le ⟨_, rfl⟩ ⟨_, heq.symm⟩ hle
  rw [List.append_assoc, List.append_cancel_left_eq] at heq
  cases between with
  | nil =>
    cases heq
    exact absurd rfl hpq
  | cons w between =>
    obtain ⟨rfl, hrest⟩ := List.cons.inj heq
    obtain ⟨between', rfl, hbehind⟩ := Text.behind_of_notMem htail hrest
    exact ⟨between', rfl, hbehind⟩

end Argument

end Dim

/-! ## Two arguments -/

namespace Condition

/-- The argument with the letter `p` is found before the one with the letter `q`, and `left` is what
the text holds besides both. -/
inductive Pair (p q : Char) : List Char → List Char → Dim → Dim → Prop
  | mk {front spelled between spelled' back cs : List Char} {d e : Dim} :
    Found ['w', p] cs front spelled (between ++ (spelled' ++ back)) d →
    Found ['w', q] cs (front ++ (spelled ++ between)) spelled' back e →
    Pair p q cs (front ++ (between ++ back)) d e

/-- The argument with the letter `p`, the one with the letter `q`, and besides them only blanks. -/
inductive Row (p q : Char) : List Char → Dim → Dim → Prop
  | mk {before spelled between spelled' after : List Char} {d e : Dim} :
    Blank before → Argument ['w', p] spelled d → Blank between → Argument ['w', q] spelled' e →
    Blank after → Row p q (before ++ (spelled ++ (between ++ (spelled' ++ after)))) d e

theorem blank_append_iff {cs cs' : List Char} : Blank (cs ++ cs') ↔ Blank cs ∧ Blank cs' :=
  List.forall_mem_append

variable {cs : List Char}

/-- In a row both arguments are found: neither name occurs earlier, because the letter `w` does
not. -/
theorem Row.exists_pair (h : Row p q cs d e) (hp : p ≠ 'w') (hq : q ≠ 'w') (hpq : p ≠ q) :
    ∃ left, Pair p q cs left d e ∧ Blank left := by
  obtain @⟨before, spelled, between, spelled', after, d, e, hbefore, hspelled, hbetween,
    hspelled', hafter⟩ := h
  have hletter : Text.isBlank 'w' = false := rfl
  obtain ⟨tail, htail, -⟩ := hspelled'.letters hq
  have hends : Dim.Ends (between ++ (spelled' ++ after)) := by
    rw [htail]
    exact Dim.ends_append_cons hbetween rfl _
  have hfirst : Found ['w', p] (before ++ (spelled ++ (between ++ (spelled' ++ after)))) before
      spelled (between ++ (spelled' ++ after)) d := by
    refine ⟨hspelled, hends, rfl, fun front' back' heq => ?_⟩
    rw [List.append_assoc] at heq
    obtain ⟨_, rfl, -⟩ := Text.behind_of_notMem (hbefore.notMem hletter) heq
    simp
  have hsecond : Found ['w', q] (before ++ (spelled ++ (between ++ (spelled' ++ after))))
      (before ++ (spelled ++ between)) spelled' after e := by
    refine ⟨hspelled', Dim.ends_of_blank hafter, ?_, fun front' back' heq => ?_⟩
    · simp only [List.append_assoc]
    · rw [List.append_assoc] at heq
      obtain ⟨_, rfl, -⟩ := Text.behind_of_notMem (hbefore.notMem hletter) heq
      obtain ⟨_, hfront, hrest⟩ := hspelled.behind hp hpq (by simp) heq
      obtain ⟨_, rfl, -⟩ := Text.behind_of_notMem (hbetween.notMem hletter) hrest
      simp [hfront]
  exact ⟨_, .mk hfirst hsecond,
    blank_append_iff.mpr ⟨hbefore, blank_append_iff.mpr ⟨hbetween, hafter⟩⟩⟩

theorem Row.notMem (h : Row p q cs d e) {c : Char} (hblank : Text.isBlank c = false)
    (hdigit : c.isDigit = false) (hmarks : c ∉ [',', ':', 'w', p, q]) : c ∉ cs := by
  obtain ⟨hbefore, hspelled, hbetween, hspelled', hafter⟩ := h
  simp only [List.mem_cons, List.not_mem_nil, or_false, not_or] at hmarks
  obtain ⟨hcomma, hcolon, hw, hp, hq⟩ := hmarks
  have hfirst := hspelled.notMem hblank hdigit (by simp [hcomma, hcolon, hw, hp])
  have hsecond := hspelled'.notMem hblank hdigit (by simp [hcomma, hcolon, hw, hq])
  simp [hbefore.notMem hblank, hfirst, hbetween.notMem hblank, hsecond, hafter.notMem hblank]

/-- Only blanks are left of a row, and of nothing else. -/
theorem row_iff (hp : p ≠ 'w') (hq : q ≠ 'w') (hpq : p ≠ q) :
    Row p q cs d e ↔ ∃ left, Pair p q cs left d e ∧ Blank left := by
  constructor
  · intro h
    exact h.exists_pair hp hq hpq
  · rintro ⟨_, ⟨hfirst, hsecond⟩, hleft⟩
    rw [blank_append_iff, blank_append_iff] at hleft
    rw [hfirst.split]
    exact .mk hleft.1 hfirst.argument hleft.2.1 hsecond.argument hleft.2.2

/-- Two arguments that are found do not overlap. -/
theorem exists_pair_of_found {front' spelled' back' : List Char} (hp : p ≠ 'w') (hq : q ≠ 'w')
    (hpq : p ≠ q) (hd : Found ['w', p] cs front spelled back d)
    (he : Found ['w', q] cs front' spelled' back' e) (hle : front.length ≤ front'.length) :
    ∃ left, Pair p q cs left d e := by
  obtain ⟨tail, htail, -⟩ := he.argument.letters hq
  have hsplit := hd.split.symm.trans he.split
  rw [htail] at hsplit
  obtain ⟨between, rfl, hback⟩ := hd.argument.behind hp hpq hle hsplit
  have hfound : Found ['w', p] cs front spelled (between ++ (spelled' ++ back')) d := by
    rw [htail]
    rwa [hback] at hd
  exact ⟨_, .mk hfound he⟩

namespace Pair

variable {d' e' : Dim}

theorem unique (h : Pair p q cs left d e) (h' : Pair p q cs left' d' e') : left = left' := by
  obtain ⟨hfirst, hsecond⟩ := h
  obtain ⟨hfirst', hsecond'⟩ := h'
  obtain ⟨rfl, rfl, -⟩ := hfirst.unique hfirst'
  obtain ⟨hfront, -, rfl⟩ := hsecond.unique hsecond'
  rw [List.append_cancel_left (List.append_cancel_left hfront)]

/-- The arguments have one order. -/
theorem not_swapped (h : Pair p q cs left d e) : ¬ Pair q p cs left' e' d' := by
  rintro ⟨hfirst', hsecond'⟩
  obtain ⟨hfirst, hsecond⟩ := h
  have hle := congrArg List.length (hfirst.unique hsecond').1
  have hge := congrArg List.length (hsecond.unique hfirst').1
  have hpos := hfirst.argument.length_pos
  simp only [List.length_append] at hle hge
  omega

end Pair

/-- Both arguments are read exactly if they are found, in one of the two orders. -/
theorem arguments_iff (body : List Char) :
    (Dim.argument? (String.ofList body) "wg" = some d ∧
        Dim.argument? (String.ofList body) "wi" = some e) ↔
      ∃ left, Pair 'g' 'i' body left d e ∨ Pair 'i' 'g' body left e d := by
  have hgroup : "wg".toList = ['w', 'g'] := rfl
  have hitem : "wi".toList = ['w', 'i'] := rfl
  rw [Dim.argument?_eq_some_iff hgroup rfl, Dim.argument?_eq_some_iff hitem rfl,
    String.toList_ofList]
  constructor
  · rintro ⟨⟨front, spelled, back, hd⟩, front', spelled', back', he⟩
    rcases Nat.le_total front.length front'.length with hle | hge
    · obtain ⟨left, h⟩ := exists_pair_of_found (by decide) (by decide) (by decide) hd he hle
      exact ⟨left, .inl h⟩
    · obtain ⟨left, h⟩ := exists_pair_of_found (by decide) (by decide) (by decide) he hd hge
      exact ⟨left, .inr h⟩
  · rintro ⟨_, ⟨hd, he⟩ | ⟨he, hd⟩⟩
    · exact ⟨⟨_, _, _, hd⟩, _, _, _, he⟩
    · exact ⟨⟨_, _, _, hd⟩, _, _, _, he⟩

/-! ## Texts of conditions -/

variable {text body : List Char}

/-- The text starts with the keyword, and `body` is behind it. -/
def Opens (text body : List Char) : Prop :=
  ∃ before, Blank before ∧ text = before ++ ("if ".toList ++ body)

/-- Behind the keyword both arguments are found, in one of the two orders, and `left` is what the
text holds besides them. -/
def Leaves (text left : List Char) (workGroup workItem : Dim) : Prop :=
  ∃ body, Opens text body ∧
    (Pair 'g' 'i' body left workGroup workItem ∨ Pair 'i' 'g' body left workItem workGroup)

/-- The text is the keyword and both arguments, in one of the two orders, with nothing but blanks
around them. -/
def Form (text : List Char) (workGroup workItem : Dim) : Prop :=
  ∃ body, Opens text body ∧
    (Row 'g' 'i' body workGroup workItem ∨ Row 'i' 'g' body workItem workGroup)

theorem opens_iff : Opens text body ↔
    Text.after? "if ".toList (Text.trimStart text) = some body := by
  have hkeyword : "if ".toList = ['i', 'f', ' '] := rfl
  rw [hkeyword, Text.after?_trimStart_eq_some_iff rfl]
  rfl

theorem Opens.not_blank (h : Opens text body) : ¬ Blank text := by
  obtain ⟨before, -, rfl⟩ := h
  intro hblank
  exact Bool.false_ne_true (hblank 'i' (by simp))

/-- Only blanks are left of the texts of the form, and of no others. -/
theorem form_iff : Form text d e ↔ ∃ left, Leaves text left d e ∧ Blank left := by
  unfold Form Leaves
  simp only [row_iff (p := 'g') (q := 'i') (by decide) (by decide) (by decide),
    row_iff (p := 'i') (q := 'g') (by decide) (by decide) (by decide)]
  constructor
  · rintro ⟨body, hopens, ⟨left, hpair, hblank⟩ | ⟨left, hpair, hblank⟩⟩
    · exact ⟨left, ⟨body, hopens, .inl hpair⟩, hblank⟩
    · exact ⟨left, ⟨body, hopens, .inr hpair⟩, hblank⟩
  · rintro ⟨left, ⟨body, hopens, hpair | hpair⟩, hblank⟩
    · exact ⟨body, hopens, .inl ⟨left, hpair, hblank⟩⟩
    · exact ⟨body, hopens, .inr ⟨left, hpair, hblank⟩⟩

/-- Other characters do not stand in a text of the form. -/
theorem Form.notMem (h : Form text d e) {c : Char} (hblank : Text.isBlank c = false)
    (hdigit : c.isDigit = false) (hmarks : c ∉ ['i', 'f', 'w', 'g', ':', ',']) : c ∉ text := by
  obtain ⟨body, ⟨before, hbefore, rfl⟩, hrow⟩ := h
  simp only [List.mem_cons, List.not_mem_nil, or_false, not_or] at hmarks
  have hspace : c ≠ ' ' := by
    rintro rfl
    cases hblank
  have hbody : c ∉ body := by
    rcases hrow with hrow | hrow
    · exact hrow.notMem hblank hdigit (by simp [hmarks])
    · exact hrow.notMem hblank hdigit (by simp [hmarks])
  simp [hbefore.notMem hblank, hmarks, hspace, hbody]

theorem Leaves.unique {d' e' : Dim} (h : Leaves text left d e) (h' : Leaves text left' d' e') :
    left = left' := by
  obtain ⟨body, hopens, hpair⟩ := h
  obtain ⟨body', hopens', hpair'⟩ := h'
  rw [opens_iff] at hopens hopens'
  obtain rfl : body = body' := Option.some.inj (hopens.symm.trans hopens')
  rcases hpair with hpair | hpair <;> rcases hpair' with hpair' | hpair'
  · exact hpair.unique hpair'
  · exact absurd hpair' hpair.not_swapped
  · exact absurd hpair' hpair.not_swapped
  · exact hpair.unique hpair'

theorem all_isBlank_iff : text.all Text.isBlank = true ↔ Blank text :=
  List.all_eq_true

theorem parse_of_blank {raw : String} (h : Blank raw.toList) : parse (some raw) = .ok any := by
  unfold parse
  dsimp only
  rw [if_pos (all_isBlank_iff.mpr h)]

theorem parse_of_leaves {raw : String} (h : Leaves raw.toList left d e) :
    parse (some raw) = .ok ⟨some raw, .equal, d, e⟩ := by
  obtain ⟨body, hopens, hpair⟩ := h
  obtain ⟨hgroup, hitem⟩ := (arguments_iff body).mpr ⟨left, hpair⟩
  unfold parse
  simp only [all_isBlank_iff, hopens.not_blank, if_false, opens_iff.mp hopens, hgroup, hitem]

theorem parse_of_not_leaves {raw : String} (hopens : Opens raw.toList body)
    (h : ∀ left d e, ¬ Leaves raw.toList left d e) :
    parse (some raw) = .error (noCoordinates body) := by
  unfold parse
  simp only [all_isBlank_iff, hopens.not_blank, if_false, opens_iff.mp hopens]
  split
  · next d e hgroup hitem =>
    obtain ⟨left, hpair⟩ := (arguments_iff body).mp ⟨hgroup, hitem⟩
    exact absurd ⟨body, hopens, hpair⟩ (h left d e)
  · rfl

theorem parse_of_not_opens {raw : String} (hblank : ¬ Blank raw.toList)
    (h : ∀ body, ¬ Opens raw.toList body) : parse (some raw) = .error (noKeyword raw) := by
  have hnone : Text.after? "if ".toList (Text.trimStart raw.toList) = none :=
    Option.eq_none_iff_forall_ne_some.mpr fun body hbody => h body (opens_iff.mpr hbody)
  unfold parse
  simp only [all_isBlank_iff, hblank, if_false, hnone]

/-- What is made of a text: a condition if both arguments are found, whatever else it holds. -/
theorem parse_cases (raw : String) :
    (Blank raw.toList ∧ parse (some raw) = .ok any) ∨
      (∃ left d e, Leaves raw.toList left d e ∧ parse (some raw) = .ok ⟨some raw, .equal, d, e⟩) ∨
      ¬ Blank raw.toList ∧ (∀ left d e, ¬ Leaves raw.toList left d e) ∧
        ∃ detail, parse (some raw) = .error (.conditionText detail) := by
  by_cases hblank : Blank raw.toList
  · exact .inl ⟨hblank, parse_of_blank hblank⟩
  by_cases hleaves : ∃ left d e, Leaves raw.toList left d e
  · obtain ⟨left, d, e, h⟩ := hleaves
    exact .inr (.inl ⟨left, d, e, h, parse_of_leaves h⟩)
  have hnone : ∀ left d e, ¬ Leaves raw.toList left d e := fun left d e h =>
    hleaves ⟨left, d, e, h⟩
  refine .inr (.inr ⟨hblank, hnone, ?_⟩)
  by_cases hopens : ∃ body, Opens raw.toList body
  · obtain ⟨body, hopens⟩ := hopens
    exact ⟨_, parse_of_not_leaves hopens hnone⟩
  · exact ⟨_, parse_of_not_opens hblank fun body h => hopens ⟨body, h⟩⟩

/-- The conditions that a text can give. -/
theorem parse_ok_cases {raw : String} {c : Condition} (h : parse (some raw) = .ok c) :
    Blank raw.toList ∧ c = any ∨
      ∃ left d e, Leaves raw.toList left d e ∧ c = ⟨some raw, .equal, d, e⟩ := by
  rcases parse_cases raw with ⟨hblank, hparse⟩ | ⟨left, d, e, hleaves, hparse⟩ | ⟨-, -, _, hparse⟩
  · cases h.symm.trans hparse
    exact .inl ⟨hblank, rfl⟩
  · cases h.symm.trans hparse
    exact .inr ⟨left, d, e, hleaves, rfl⟩
  · cases h.symm.trans hparse

theorem parse_eq_equal_iff {raw : String} :
    parse (some raw) = .ok ⟨some raw, .equal, d, e⟩ ↔ ∃ left, Leaves raw.toList left d e := by
  constructor
  · intro h
    rcases parse_ok_cases h with ⟨-, hany⟩ | ⟨left, _, _, hleaves, hequal⟩
    · cases hany
    · cases hequal
      exact ⟨left, hleaves⟩
  · rintro ⟨left, h⟩
    exact parse_of_leaves h

theorem parse_eq_error_iff {raw : String} :
    (∃ detail, parse (some raw) = .error (.conditionText detail)) ↔
      ¬ Blank raw.toList ∧ ∀ left d e, ¬ Leaves raw.toList left d e := by
  rcases parse_cases raw with ⟨hblank, hparse⟩ | ⟨left, d', e', hleaves, hparse⟩ |
    ⟨hblank, hnone, herror⟩
  · exact iff_of_false (by simp [hparse]) fun h => h.1 hblank
  · exact iff_of_false (by simp [hparse]) fun h => h.2 left d' e' hleaves
  · exact iff_of_true herror ⟨hblank, hnone⟩

/-- **A condition is accepted whatever else stands in its text.** A text is read as a condition on
one work-item exactly if both arguments are found behind the keyword, each at the first occurrence
of its name; what it holds besides them is left over, and not looked at. So what is accepted is of
the form `if wg:x,y,z wi:x,y,z`, with the arguments in either order, exactly if nothing but blanks
is left over. The texts of that form are those with both arguments that leave only blanks, and all
of them are accepted. Texts without both arguments that are not blank are errors. -/
theorem parse_fully_checked_iff (raw : String) :
    ((∀ c, parse (some raw) = .ok c → c.code = .equal →
        Form raw.toList c.workGroup c.workItem) ↔
      ∀ left d e, Leaves raw.toList left d e → Blank left) ∧
    (∀ d e, parse (some raw) = .ok ⟨some raw, .equal, d, e⟩ ↔
      ∃ left, Leaves raw.toList left d e) ∧
    (∀ d e, Form raw.toList d e ↔ ∃ left, Leaves raw.toList left d e ∧ Blank left) ∧
    ((∃ detail, parse (some raw) = .error (.conditionText detail)) ↔
      ¬ Blank raw.toList ∧ ∀ left d e, ¬ Leaves raw.toList left d e) := by
  refine ⟨⟨fun h left d e hleaves => ?_, fun h c hparse hcode => ?_⟩, fun _ _ => parse_eq_equal_iff,
    fun _ _ => form_iff, parse_eq_error_iff⟩
  · obtain ⟨left', hleaves', hblank⟩ := form_iff.mp (h _ (parse_of_leaves hleaves) rfl)
    exact hleaves.unique hleaves' ▸ hblank
  · rcases parse_cases raw with ⟨-, hany⟩ | ⟨left, d, e, hleaves, hequal⟩ | ⟨-, -, _, herror⟩
    · cases hparse.symm.trans hany
      cases hcode
    · cases hparse.symm.trans hequal
      exact form_iff.mpr ⟨left, hleaves, h left d e hleaves⟩
    · cases hparse.symm.trans herror

/-- A third argument is passed over, and the text is not of the form. -/
theorem third_argument_is_passed_over :
    parse (some "if wg:1,2,3 wi:0,0,0 lane:5") =
        .ok ⟨some "if wg:1,2,3 wi:0,0,0 lane:5", .equal, ⟨1, 2, 3⟩, ⟨0, 0, 0⟩⟩ ∧
      ¬ Form "if wg:1,2,3 wi:0,0,0 lane:5".toList ⟨1, 2, 3⟩ ⟨0, 0, 0⟩ ∧
      ∃ left, Leaves "if wg:1,2,3 wi:0,0,0 lane:5".toList left ⟨1, 2, 3⟩ ⟨0, 0, 0⟩ ∧
        ¬ Blank left := by
  have hparse : parse (some "if wg:1,2,3 wi:0,0,0 lane:5") =
      .ok ⟨some "if wg:1,2,3 wi:0,0,0 lane:5", .equal, ⟨1, 2, 3⟩, ⟨0, 0, 0⟩⟩ := rfl
  have hform : ¬ Form "if wg:1,2,3 wi:0,0,0 lane:5".toList ⟨1, 2, 3⟩ ⟨0, 0, 0⟩ := fun h =>
    h.notMem (c := 'l') rfl rfl (by decide) (by decide)
  obtain ⟨-, haccepted, hblanks, -⟩ := parse_fully_checked_iff "if wg:1,2,3 wi:0,0,0 lane:5"
  obtain ⟨left, hleaves⟩ := (haccepted _ _).mp hparse
  refine ⟨hparse, hform, left, hleaves, fun hblank => ?_⟩
  exact hform ((hblanks _ _).mpr ⟨left, hleaves, hblank⟩)

end Condition

end GpuDebug
