/-!
# Blanks and fragments

The grammars of locations, conditions and literals skip blanks and look for fixed marks.

* `Text.isBlank`: the characters with the Unicode property White_Space;
* `Text.trimStart`, `Text.trimEnd`, `Text.trim`: a text without blanks at its ends;
* `Text.after?`: the text behind a mark that it starts with;
* `Text.cut?`: the text before and behind the first occurrence of a mark.
-/

namespace GpuDebug.Text

/-- The characters with the Unicode property White_Space. -/
def isBlank (c : Char) : Bool :=
  let n := c.toNat
  (0x09 ≤ n && n ≤ 0x0D) || n == 0x20 || n == 0x85 || n == 0xA0 || n == 0x1680 ||
    (0x2000 ≤ n && n ≤ 0x200A) || n == 0x2028 || n == 0x2029 || n == 0x202F || n == 0x205F ||
    n == 0x3000

/-- The text without the blanks at its start. -/
def trimStart (cs : List Char) : List Char :=
  cs.dropWhile isBlank

/-- The text without the blanks at its end. -/
def trimEnd : List Char → List Char
  | [] => []
  | c :: cs =>
    match trimEnd cs with
    | [] => if isBlank c then [] else [c]
    | d :: ds => c :: d :: ds

/-- The text without the blanks at both ends. -/
def trim (cs : List Char) : List Char :=
  trimEnd (trimStart cs)

/-- What follows `mark` in a text that starts with it. -/
def after? : (mark : List Char) → List Char → Option (List Char)
  | [], cs => some cs
  | _ :: _, [] => none
  | m :: mark, c :: cs => if m = c then after? mark cs else none

/-- What stands before and behind the first occurrence of `mark`. -/
def cut? (mark : List Char) : List Char → Option (List Char × List Char)
  | [] => (after? mark []).map fun rest => ([], rest)
  | c :: cs =>
    match after? mark (c :: cs) with
    | some rest => some ([], rest)
    | none => (cut? mark cs).map fun (front, rest) => (c :: front, rest)

/-- Whether `mark` occurs in the text. -/
def holds (mark cs : List Char) : Bool :=
  (cut? mark cs).isSome

theorem after?_eq_some_iff {mark cs rest : List Char} :
    after? mark cs = some rest ↔ cs = mark ++ rest := by
  induction mark generalizing cs with
  | nil => simp [after?]
  | cons m mark ih =>
    cases cs with
    | nil => simp [after?]
    | cons c cs =>
      by_cases h : m = c
      · simp [after?, h, ih]
      · simp [after?, h, Ne.symm h]

theorem eq_append_of_cut? {mark cs front rest : List Char} (h : cut? mark cs = some (front, rest)) :
    cs = front ++ mark ++ rest := by
  induction cs generalizing front with
  | nil =>
    simp only [cut?, Option.map_eq_some_iff] at h
    obtain ⟨a, ha, hb⟩ := h
    cases hb
    simpa using after?_eq_some_iff.1 ha
  | cons c cs ih =>
    unfold cut? at h
    split at h
    · rename_i r hr
      cases h
      simpa using after?_eq_some_iff.1 hr
    · simp only [Option.map_eq_some_iff] at h
      obtain ⟨⟨f, r⟩, hf, he⟩ := h
      cases he
      simp [ih hf]

end GpuDebug.Text
