import GpuDebug.Dim.Argument
import GpuDebug.Proofs.Literals

/-!
# The forms of a coordinate argument

The texts that spell a coordinate, described without reading them from left to right. Blanks may
stand before components and commas, and around the colon.

* `Dim.Component`, `Dim.Coordinate`, `Dim.Argument`: the spellings of a component, of a coordinate,
  and of a coordinate behind a name.
* `Dim.readCoordinate?_eq_some_iff`: a coordinate is read as far as it goes.
* `Dim.Found`: the argument at the first occurrence of a name; `Dim.argument?_eq_some_iff` says that
  it is what is read, and `Dim.Found.unique` that there is one.
-/

namespace GpuDebug

open Text (Blank FirstCut)

/-! ## Decimal digits -/

namespace Numeral

variable {c : Char} {cs : List Char} {n : Nat}

/-- Decimal digits are digits, and no blanks. -/
theorem IsDigit.decimal {d : Nat} (h : IsDigit 10 d c) :
    c.isDigit = true ∧ Text.isBlank c = false := by
  have hdigit : ∀ d < 10, (Nat.digitChar d).isDigit = true := by decide
  refine ⟨?_, h.isBlank_eq_false (by decide)⟩
  obtain ⟨hlt, rfl | rfl⟩ := h
  · exact hdigit d hlt
  · rw [toUpper_of_isDigit (hdigit d hlt)]
    exact hdigit d hlt

theorem exists_isDigit (h : c.isDigit = true) : ∃ d, IsDigit 10 d c := by
  have hrange : '0' ≤ c ∧ c ≤ '9' := by
    rw [Char.isDigit, Bool.and_eq_true, decide_eq_true_eq, decide_eq_true_eq] at h
    exact h
  obtain ⟨d, rfl, -, hmost⟩ := eq_ofNat_of_range hrange.1 hrange.2
  have hlt : d < 10 := Nat.lt_succ_of_le hmost
  exact ⟨d, hlt, .inl (digitChar_of_ranges.1 d hlt).symm⟩

theorem Denotes.decimal (h : Denotes 10 cs n) :
    ∀ c ∈ cs, c.isDigit = true ∧ Text.isBlank c = false := by
  intro c hc
  obtain ⟨d, hd⟩ := h.exists_digit c hc
  exact hd.decimal

theorem Denotes.ne_nil {radix : Nat} (h : Denotes radix cs n) : cs ≠ [] := by
  cases h <;> simp

end Numeral

namespace Dim

variable {cs rest : List Char} {v : Int32} {d : Dim}

/-! ## Components -/

/-- A decimal number that is not too large, with blanks before it. -/
inductive Component : List Char → Int32 → Prop
  | mk {blanks digits : List Char} {n : Nat} : Blank blanks → Numeral.Denotes 10 digits n →
    n ≤ largest → Component (blanks ++ digits) (Int32.ofNat n)

/-- The text does not go on with a digit. -/
def Ends (rest : List Char) : Prop :=
  ∀ c ∈ rest.head?, c.isDigit = false

theorem isDigit_of_isBlank {c : Char} (h : Text.isBlank c = true) : c.isDigit = false := by
  cases hc : c.isDigit with
  | false => rfl
  | true =>
    obtain ⟨d, hd⟩ := Numeral.exists_isDigit hc
    exact absurd (hd.decimal.2.symm.trans h) Bool.false_ne_true

theorem ends_append_cons {blanks : List Char} (h : Blank blanks) {c : Char} (hc : c.isDigit = false)
    (cs : List Char) : Ends (blanks ++ c :: cs) := by
  cases blanks with
  | nil =>
    rintro _ ⟨⟩
    exact hc
  | cons b blanks =>
    rintro _ ⟨⟩
    exact isDigit_of_isBlank (h b List.mem_cons_self)

theorem ends_of_blank (h : Blank rest) : Ends rest :=
  fun c hc => isDigit_of_isBlank (h c (List.mem_of_mem_head? hc))

/-- Digits are read up to the last one. -/
theorem span_digits {digits : List Char} (h : ∀ c ∈ digits, c.isDigit = true) (hends : Ends rest) :
    (digits ++ rest).takeWhile Char.isDigit = digits ∧
      (digits ++ rest).dropWhile Char.isDigit = rest := by
  rw [List.takeWhile_append_of_pos h, List.dropWhile_append_of_pos h]
  cases rest with
  | nil => simp
  | cons c rest => simp [hends c rfl]

/-- A component is read up to its last digit. -/
theorem component?_eq_some_iff :
    component? cs = some (v, rest) ↔ ∃ spelled, Component spelled v ∧ Ends rest ∧
      cs = spelled ++ rest := by
  unfold component?
  dsimp only
  constructor
  · intro h
    obtain ⟨blanks, hblanks, hcs⟩ := Text.exists_blank_append_trimStart cs
    cases hvalue : Numeral.value? 10 ((Text.trimStart cs).takeWhile Char.isDigit) with
    | none => simp [hvalue] at h
    | some n =>
      simp only [hvalue, Option.ite_none_right_eq_some, Option.some.injEq, Prod.mk.injEq] at h
      obtain ⟨hn, rfl, rfl⟩ := h
      have hdigits := (Numeral.value?_eq_some_iff (by decide)).mp hvalue
      refine ⟨_, .mk hblanks hdigits hn, fun c hc => ?_, ?_⟩
      · have hfirst := List.head?_dropWhile_not Char.isDigit (Text.trimStart cs)
        rw [Option.mem_def.mp hc] at hfirst
        exact hfirst
      · rw [List.append_assoc, List.takeWhile_append_dropWhile, ← hcs]
  · rintro ⟨_, @⟨blanks, digits, n, hblanks, hdigits, hn⟩, hends, rfl⟩
    have hstart : Text.trimStart (blanks ++ digits ++ rest) = digits ++ rest := by
      rw [List.append_assoc, Text.trimStart_append hblanks, Text.trimStart_eq_self]
      intro c hc
      rw [List.head?_append, List.head?_eq_some_head hdigits.ne_nil] at hc
      cases hc
      exact (hdigits.decimal _ (List.head_mem hdigits.ne_nil)).2
    obtain ⟨htake, hdrop⟩ := span_digits (fun c hc => (hdigits.decimal c hc).1) hends
    rw [hstart, htake, hdrop, (Numeral.value?_eq_some_iff (by decide)).mpr hdigits]
    exact if_pos hn

/-- A component behind a comma. -/
theorem nextComponent?_eq_some_iff :
    nextComponent? cs = some (v, rest) ↔ ∃ blanks spelled, Blank blanks ∧ Component spelled v ∧
      Ends rest ∧ cs = blanks ++ ',' :: (spelled ++ rest) := by
  have hcomma : Text.isBlank ',' = false := rfl
  unfold nextComponent?
  simp only [Option.bind_eq_some_iff, Text.after?_trimStart_eq_some_iff hcomma,
    component?_eq_some_iff, List.nil_append]
  constructor
  · rintro ⟨_, ⟨blanks, hblanks, rfl⟩, spelled, hspelled, hends, rfl⟩
    exact ⟨blanks, spelled, hblanks, hspelled, hends, rfl⟩
  · rintro ⟨blanks, spelled, hblanks, hspelled, hends, rfl⟩
    exact ⟨spelled ++ rest, ⟨blanks, hblanks, rfl⟩, spelled, hspelled, hends, rfl⟩

/-! ## Coordinates -/

/-- A coordinate is printed with commas between its components. -/
theorem toList_text (d : Dim) : (toString d).toList =
    (toString d.x).toList ++ ',' :: ((toString d.y).toList ++ ',' :: (toString d.z).toList) := by
  change (text d).toList = _
  have hcomma : (toString ",").toList = [','] := by simp [toString]
  simp [text, String.toList_append, hcomma]

/-- Three components with commas between them. -/
inductive Coordinate : List Char → Dim → Prop
  | mk {x y z blanks blanks' : List Char} {d : Dim} : Component x d.x → Blank blanks →
    Component y d.y → Blank blanks' → Component z d.z →
    Coordinate (x ++ (blanks ++ ',' :: (y ++ (blanks' ++ ',' :: z)))) d

/-- Three components at the start of a text, and what follows them. -/
def readCoordinate? (cs : List Char) : Option (Dim × List Char) := do
  let (x, cs) ← component? cs
  let (y, cs) ← nextComponent? cs
  let (z, cs) ← nextComponent? cs
  return (⟨x, y, z⟩, cs)

theorem components?_eq_map (cs : List Char) :
    components? cs = (readCoordinate? cs).map Prod.fst := by
  unfold components? readCoordinate?
  cases component? cs with
  | none => rfl
  | some first =>
    cases hy : nextComponent? first.2 with
    | none => simp [hy]
    | some second => cases hz : nextComponent? second.2 <;> simp [hy, hz]

/-- A coordinate is read as far as it goes. -/
theorem readCoordinate?_eq_some_iff :
    readCoordinate? cs = some (d, rest) ↔ ∃ spelled, Coordinate spelled d ∧ Ends rest ∧
      cs = spelled ++ rest := by
  unfold readCoordinate?
  simp only [Option.bind_eq_bind, Option.bind_eq_some_iff, Option.pure_def, Option.some.injEq,
    Prod.mk.injEq]
  constructor
  · rintro ⟨⟨x, cs₁⟩, hx, ⟨y, cs₂⟩, hy, ⟨z, cs₃⟩, hz, rfl, rfl⟩
    obtain ⟨spelledX, hspelledX, -, rfl⟩ := component?_eq_some_iff.mp hx
    obtain ⟨blanks, spelledY, hblanks, hspelledY, -, rfl⟩ := nextComponent?_eq_some_iff.mp hy
    obtain ⟨blanks', spelledZ, hblanks', hspelledZ, hends, rfl⟩ := nextComponent?_eq_some_iff.mp hz
    refine ⟨_, .mk (d := ⟨x, y, z⟩) hspelledX hblanks hspelledY hblanks' hspelledZ, hends, ?_⟩
    simp only [List.append_assoc, List.cons_append]
  · rintro ⟨_, @⟨x, y, z, blanks, blanks', d, hx, hblanks, hy, hblanks', hz⟩, hends, rfl⟩
    have hcomma : (',').isDigit = false := rfl
    have hreadX := component?_eq_some_iff.mpr ⟨x, hx, ends_append_cons hblanks hcomma
      (y ++ (blanks' ++ ',' :: (z ++ rest))), rfl⟩
    have hreadY := nextComponent?_eq_some_iff.mpr ⟨blanks, y, hblanks, hy,
      ends_append_cons hblanks' hcomma (z ++ rest), rfl⟩
    have hreadZ := nextComponent?_eq_some_iff.mpr ⟨blanks', z, hblanks', hz, hends, rfl⟩
    refine ⟨(d.x, _), ?_, (d.y, _), hreadY, (d.z, _), hreadZ, rfl, rfl⟩
    simpa only [List.append_assoc, List.cons_append] using hreadX

/-! ## Arguments -/

/-- A coordinate behind a name and a colon. -/
inductive Argument (name : List Char) : List Char → Dim → Prop
  | mk {blanks coordinate : List Char} {d : Dim} : Blank blanks → Coordinate coordinate d →
    Argument name (name ++ (blanks ++ ':' :: coordinate)) d

/-- The text has the argument `spelled` between `front` and `back`; it starts at the first
occurrence of its name, and goes as far as it can. -/
structure Found (name cs front spelled back : List Char) (d : Dim) : Prop where
  argument : Argument name spelled d
  ends : Ends back
  split : cs = front ++ (spelled ++ back)
  first : ∀ front' back', cs = front' ++ name ++ back' → front.length ≤ front'.length

variable {name front spelled back : List Char}

/-- An argument is cut off behind its name. -/
theorem Found.firstCut (h : Found name cs front spelled back d) :
    ∃ blanks coordinate, Blank blanks ∧ Coordinate coordinate d ∧
      spelled = name ++ (blanks ++ ':' :: coordinate) ∧
      FirstCut name cs front (blanks ++ ':' :: (coordinate ++ back)) := by
  obtain ⟨@⟨blanks, coordinate, d, hblanks, hcoordinate⟩, -, hsplit, hfirst⟩ := h
  refine ⟨blanks, coordinate, hblanks, hcoordinate, rfl, ?_, hfirst⟩
  rw [hsplit]
  simp only [List.append_assoc, List.cons_append]

theorem Found.unique {front' spelled' back' : List Char} {d' : Dim}
    (h : Found name cs front spelled back d) (h' : Found name cs front' spelled' back' d') :
    front = front' ∧ spelled = spelled' ∧ back = back' := by
  obtain ⟨blanks, coordinate, hblanks, hcoordinate, -, hcut⟩ := h.firstCut
  obtain ⟨blanks', coordinate', hblanks', hcoordinate', -, hcut'⟩ := h'.firstCut
  obtain ⟨rfl, htail⟩ := hcut.unique hcut'
  have htrim := congrArg Text.trimStart htail
  rw [Text.trimStart_append_cons hblanks rfl, Text.trimStart_append_cons hblanks' rfl] at htrim
  have hread := readCoordinate?_eq_some_iff.mpr ⟨coordinate, hcoordinate, h.ends, rfl⟩
  rw [List.tail_eq_of_cons_eq htrim,
    readCoordinate?_eq_some_iff.mpr ⟨coordinate', hcoordinate', h'.ends, rfl⟩] at hread
  cases hread
  have hsplit := h.split.symm.trans h'.split
  exact ⟨rfl, List.append_cancel_right (List.append_cancel_left hsplit), rfl⟩

/-- **The argument of a name is the one at its first occurrence.** The name does not start with a
blank. -/
theorem argument?_eq_some_iff {text name : String} {c : Char} {letters : List Char}
    (hname : name.toList = c :: letters) (hc : Text.isBlank c = false) :
    argument? text name = some d ↔
      ∃ front spelled back, Found (c :: letters) text.toList front spelled back d := by
  have htrim : Text.trimStart (c :: letters) = c :: letters :=
    Text.trimStart_eq_self fun _ h => Option.some.inj h ▸ hc
  have hcolon : Text.isBlank ':' = false := rfl
  unfold argument?
  dsimp only
  rw [hname, htrim]
  constructor
  · intro h
    cases hcut : Text.cut? (c :: letters) text.toList with
    | none => simp [hcut] at h
    | some parts =>
      obtain ⟨front, rest⟩ := parts
      simp only [hcut, List.isEmpty_cons, Bool.false_eq_true, if_false, Option.bind_eq_some_iff,
        Text.after?_trimStart_eq_some_iff hcolon, components?_eq_map, Option.map_eq_some_iff] at h
      obtain ⟨body, ⟨blanks, hblanks, rfl⟩, ⟨_, back⟩, hread, rfl⟩ := h
      obtain ⟨coordinate, hcoordinate, hends, rfl⟩ := readCoordinate?_eq_some_iff.mp hread
      have hfirst := Text.cut?_eq_some_iff_firstCut.mp hcut
      refine ⟨front, _, back, .mk hblanks hcoordinate, hends, ?_, hfirst.first⟩
      rw [hfirst.split]
      simp only [List.append_assoc, List.cons_append, List.nil_append]
  · rintro ⟨front, spelled, back, hfound⟩
    obtain ⟨blanks, coordinate, hblanks, hcoordinate, -, hcut⟩ := hfound.firstCut
    have hread := readCoordinate?_eq_some_iff.mpr ⟨coordinate, hcoordinate, hfound.ends, rfl⟩
    have hbody : Text.after? [':'] (Text.trimStart (blanks ++ ':' :: (coordinate ++ back))) =
        some (coordinate ++ back) :=
      (Text.after?_trimStart_eq_some_iff hcolon).mpr ⟨blanks, hblanks, rfl⟩
    simp only [Text.cut?_eq_some_iff_firstCut.mpr hcut, List.isEmpty_cons, Bool.false_eq_true,
      if_false, hbody, Option.bind_some, components?_eq_map, hread, Option.map_some]

end Dim

end GpuDebug
