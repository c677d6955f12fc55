import GpuDebug.Proofs.ConditionForms

/-!
# The layouts of a condition

A condition can be written in many ways: in either order, with blanks in many places, and with
leading zeros. A layout is one of these ways. The texts that can be written in some layout are those
of the form `if wg:x,y,z wi:x,y,z`, and all of them are understood.

* `Condition.Layout`, `Condition.Layout.write`: a layout, and two coordinates written in it.
* `Condition.form_iff_written`: the layouts give all texts of the form.
* `Condition.parse_every_layout`: the main result.
-/

namespace GpuDebug

open Text (Blank)

/-- A text of blanks. -/
abbrev Text.Blanks : Type := { cs : List Char // Blank cs }

namespace Text.Blanks

def none : Text.Blanks := ⟨[], by decide⟩

def space : Text.Blanks := ⟨[' '], by decide⟩

end Text.Blanks

/-! ## Coordinates -/

namespace Dim

variable {cs name : List Char} {v : Int32} {d : Dim}

/-- How a component is written. -/
structure ComponentLayout where
  before : Text.Blanks
  /-- The number of leading zeros. -/
  zeros : Nat

/-- The digits of a component, behind blanks and zeros. -/
def ComponentLayout.write (l : ComponentLayout) (v : Int32) : List Char :=
  l.before.1 ++ (List.replicate l.zeros '0' ++ Nat.toDigits 10 v.toNatClampNeg)

/-- How a coordinate is written: its components, and what stands before the two commas. -/
structure CoordinateLayout where
  x : ComponentLayout
  beforeFirst : Text.Blanks
  y : ComponentLayout
  beforeSecond : Text.Blanks
  z : ComponentLayout

def CoordinateLayout.write (l : CoordinateLayout) (d : Dim) : List Char :=
  l.x.write d.x ++
    (l.beforeFirst.1 ++ ',' :: (l.y.write d.y ++ (l.beforeSecond.1 ++ ',' :: l.z.write d.z)))

/-- How an argument is written. The blanks behind the colon are those before the component. -/
structure ArgumentLayout where
  beforeColon : Text.Blanks
  coordinate : CoordinateLayout

def ArgumentLayout.write (l : ArgumentLayout) (name : List Char) (d : Dim) : List Char :=
  name ++ (l.beforeColon.1 ++ ':' :: l.coordinate.write d)

theorem isUnknown_eq_false_iff : d.isUnknown = false ↔ 0 ≤ d.x ∧ 0 ≤ d.y ∧ 0 ≤ d.z := by
  simp [isUnknown, and_assoc]

theorem component_iff_written :
    Component cs v ↔ 0 ≤ v ∧ ∃ l : ComponentLayout, cs = l.write v := by
  constructor
  · rintro @⟨blanks, digits, n, hblanks, hdigits, hn⟩
    obtain ⟨zeros, rfl⟩ := (Numeral.denotes_iff_of_le_ten (by decide) (Nat.le_refl 10)).mp hdigits
    have hlt : n < 2 ^ 31 := Nat.lt_succ_of_le hn
    refine ⟨?_, ⟨⟨blanks, hblanks⟩, zeros⟩, ?_⟩
    · rw [Int32.le_iff_toInt_le, Int32.toInt_ofNat_of_lt hlt]
      exact Int.natCast_nonneg n
    · rw [ComponentLayout.write, Int32.toNatClampNeg_ofNat_of_lt hlt]
  · rintro ⟨hnonneg, l, rfl⟩
    have hdigits : Numeral.Denotes 10
        (List.replicate l.zeros '0' ++ Nat.toDigits 10 v.toNatClampNeg) v.toNatClampNeg :=
      (Numeral.denotes_iff_of_le_ten (by decide) (Nat.le_refl 10)).mpr ⟨l.zeros, rfl⟩
    have hlargest : v.toNatClampNeg ≤ largest := by
      have := v.toInt_lt
      rw [Int32.toNatClampNeg, largest]
      omega
    have h := Component.mk l.before.2 hdigits hlargest
    rwa [Int32.ofNat_toNatClampNeg v hnonneg] at h

theorem coordinate_iff_written :
    Coordinate cs d ↔ d.isUnknown = false ∧ ∃ l : CoordinateLayout, cs = l.write d := by
  rw [isUnknown_eq_false_iff]
  constructor
  · rintro @⟨x, y, z, blanks, blanks', d, hx, hblanks, hy, hblanks', hz⟩
    obtain ⟨hposX, layoutX, rfl⟩ := component_iff_written.mp hx
    obtain ⟨hposY, layoutY, rfl⟩ := component_iff_written.mp hy
    obtain ⟨hposZ, layoutZ, rfl⟩ := component_iff_written.mp hz
    exact ⟨⟨hposX, hposY, hposZ⟩, ⟨layoutX, ⟨_, hblanks⟩, layoutY, ⟨_, hblanks'⟩, layoutZ⟩, rfl⟩
  · rintro ⟨⟨hposX, hposY, hposZ⟩, l, rfl⟩
    exact .mk (component_iff_written.mpr ⟨hposX, l.x, rfl⟩) l.beforeFirst.2
      (component_iff_written.mpr ⟨hposY, l.y, rfl⟩) l.beforeSecond.2
      (component_iff_written.mpr ⟨hposZ, l.z, rfl⟩)

theorem argument_iff_written :
    Argument name cs d ↔ d.isUnknown = false ∧ ∃ l : ArgumentLayout, cs = l.write name d := by
  constructor
  · rintro @⟨blanks, coordinate, d, hblanks, hcoordinate⟩
    obtain ⟨hknown, l, rfl⟩ := coordinate_iff_written.mp hcoordinate
    exact ⟨hknown, ⟨⟨_, hblanks⟩, l⟩, rfl⟩
  · rintro ⟨hknown, l, rfl⟩
    exact .mk l.beforeColon.2 (coordinate_iff_written.mpr ⟨hknown, l.coordinate, rfl⟩)

/-! ## The printed coordinate -/

/-- Nothing but the digits. -/
def ComponentLayout.plain : ComponentLayout := ⟨.none, 0⟩

/-- The way in which coordinates are printed. -/
def CoordinateLayout.plain : CoordinateLayout := ⟨.plain, .none, .plain, .none, .plain⟩

theorem toList_toString_of_nonneg (h : 0 ≤ v) :
    (toString v).toList = ComponentLayout.plain.write v := by
  have hnonneg : 0 ≤ v.toInt := Int32.le_iff_toInt_le.mp h
  change v.toInt.repr.toList = Nat.toDigits 10 v.toInt.toNat
  rw [Int.repr_eq_if, if_pos hnonneg, Nat.toList_repr]

theorem toList_toString_of_known (h : d.isUnknown = false) :
    (toString d).toList = CoordinateLayout.plain.write d := by
  obtain ⟨hx, hy, hz⟩ := isUnknown_eq_false_iff.mp h
  rw [toList_text, toList_toString_of_nonneg hx, toList_toString_of_nonneg hy,
    toList_toString_of_nonneg hz]
  rfl

end Dim

/-! ## Conditions -/

namespace Condition

variable {text left : List Char} {d e : Dim}

/-- How a condition is written. -/
structure Layout where
  /-- The blanks before the keyword. -/
  before : Text.Blanks
  /-- The blanks behind the keyword and the space that belongs to it. -/
  behind : Text.Blanks
  /-- Whether the work-group stands before the work-item. -/
  groupFirst : Bool
  group : Dim.ArgumentLayout
  between : Text.Blanks
  item : Dim.ArgumentLayout
  after : Text.Blanks

/-- The two arguments in their order. -/
def Layout.body (l : Layout) (workGroup workItem : Dim) : List Char :=
  let group := l.group.write ['w', 'g'] workGroup
  let item := l.item.write ['w', 'i'] workItem
  if l.groupFirst then l.behind.1 ++ (group ++ (l.between.1 ++ (item ++ l.after.1)))
  else l.behind.1 ++ (item ++ (l.between.1 ++ (group ++ l.after.1)))

/-- The condition on a work-item of a work-group, written in a layout. -/
def Layout.write (l : Layout) (workGroup workItem : Dim) : List Char :=
  l.before.1 ++ ("if ".toList ++ l.body workGroup workItem)

/-- **The texts of the form are those that can be written**, for coordinates that are known. -/
theorem form_iff_written : Form text d e ↔
    d.isUnknown = false ∧ e.isUnknown = false ∧ ∃ l : Layout, text = l.write d e := by
  constructor
  · rintro ⟨body, ⟨before, hbefore, rfl⟩, hrow | hrow⟩
    · obtain @⟨behind, group, between, item, after, d, e, hbehind, hgroup, hbetween, hitem, hafter⟩ :=
        hrow
      obtain ⟨hd, group, rfl⟩ := Dim.argument_iff_written.mp hgroup
      obtain ⟨he, item, rfl⟩ := Dim.argument_iff_written.mp hitem
      exact ⟨hd, he, ⟨⟨_, hbefore⟩, ⟨_, hbehind⟩, true, group, ⟨_, hbetween⟩, item, ⟨_, hafter⟩⟩, rfl⟩
    · obtain @⟨behind, item, between, group, after, e, d, hbehind, hitem, hbetween, hgroup, hafter⟩ :=
        hrow
      obtain ⟨hd, group, rfl⟩ := Dim.argument_iff_written.mp hgroup
      obtain ⟨he, item, rfl⟩ := Dim.argument_iff_written.mp hitem
      exact ⟨hd, he, ⟨⟨_, hbefore⟩, ⟨_, hbehind⟩, false, group, ⟨_, hbetween⟩, item, ⟨_, hafter⟩⟩, rfl⟩
  · rintro ⟨hd, he, l, rfl⟩
    have hgroup : Dim.Argument ['w', 'g'] (l.group.write ['w', 'g'] d) d :=
      Dim.argument_iff_written.mpr ⟨hd, l.group, rfl⟩
    have hitem : Dim.Argument ['w', 'i'] (l.item.write ['w', 'i'] e) e :=
      Dim.argument_iff_written.mpr ⟨he, l.item, rfl⟩
    refine ⟨l.body d e, ⟨_, l.before.2, rfl⟩, ?_⟩
    unfold Layout.body
    cases l.groupFirst
    · exact .inr (.mk l.behind.2 hitem l.between.2 hgroup l.after.2)
    · exact .inl (.mk l.behind.2 hgroup l.between.2 hitem l.after.2)

/-- The coordinates that are found are known. -/
theorem Leaves.known (h : Leaves text left d e) : d.isUnknown = false ∧ e.isUnknown = false := by
  obtain ⟨body, -, ⟨hfirst, hsecond⟩ | ⟨hfirst, hsecond⟩⟩ := h
  · exact ⟨(Dim.argument_iff_written.mp hfirst.argument).1,
      (Dim.argument_iff_written.mp hsecond.argument).1⟩
  · exact ⟨(Dim.argument_iff_written.mp hsecond.argument).1,
      (Dim.argument_iff_written.mp hfirst.argument).1⟩

theorem parse_of_form {raw : String} (h : Form raw.toList d e) :
    parse (some raw) = .ok ⟨some raw, .equal, d, e⟩ := by
  obtain ⟨left, hleaves, -⟩ := form_iff.mp h
  exact parse_of_leaves hleaves

/-- What is accepted is no condition, or one on coordinates that are known. -/
theorem parse_eq_ok {text : Option String} {c : Condition} (h : parse text = .ok c) :
    c = any ∨ c.code = .equal ∧ c.text = text ∧
      c.workGroup.isUnknown = false ∧ c.workItem.isUnknown = false := by
  cases text with
  | none =>
    cases h
    exact .inl rfl
  | some raw =>
    rcases parse_ok_cases h with ⟨-, rfl⟩ | ⟨left, d, e, hleaves, rfl⟩
    · exact .inl rfl
    · exact .inr ⟨rfl, rfl, hleaves.known⟩

/-- The layout of the text that a condition on known coordinates has. -/
def Layout.plain : Layout where
  before := .none
  behind := .none
  groupFirst := true
  group := ⟨.none, .plain⟩
  between := .space
  item := ⟨.none, .plain⟩
  after := .none

theorem text_equal (hd : d.isUnknown = false) (he : e.isUnknown = false) :
    (equal d e).text = some (String.ofList (Layout.plain.write d e)) := by
  have hgroup : (toString "if wg:").toList = "if ".toList ++ ['w', 'g', ':'] := rfl
  have hitem : (toString " wi:").toList = [' ', 'w', 'i', ':'] := rfl
  refine congrArg some (String.toList_inj.mp ?_)
  rw [String.toList_ofList, String.toList_append, String.toList_append, String.toList_append, hgroup,
    hitem, Dim.toList_toString_of_known hd, Dim.toList_toString_of_known he]
  simp only [Layout.write, Layout.body, Layout.plain, Dim.ArgumentLayout.write, Text.Blanks.none,
    Text.Blanks.space, List.append_assoc, List.cons_append, List.nil_append, List.append_nil,
    if_true]

/-- **Conditions are understood in every layout.** Two coordinates without a negative component that
are written in any layout are read back, and the text with them. All that is read is such a
condition or none, so a condition is read back from its own text exactly if no component is
negative. -/
theorem parse_every_layout :
    (∀ (l : Layout) (d e : Dim), d.isUnknown = false → e.isUnknown = false →
      parse (some (String.ofList (l.write d e))) =
        .ok ⟨some (String.ofList (l.write d e)), .equal, d, e⟩) ∧
    (∀ d e, parse (equal d e).text = .ok (equal d e) ↔
      d.isUnknown = false ∧ e.isUnknown = false) ∧
    ∀ text c, parse text = .ok c → c = any ∨ c.code = .equal ∧ c.text = text ∧
      c.workGroup.isUnknown = false ∧ c.workItem.isUnknown = false := by
  have hwritten : ∀ (l : Layout) (d e : Dim), d.isUnknown = false → e.isUnknown = false →
      parse (some (String.ofList (l.write d e))) =
        .ok ⟨some (String.ofList (l.write d e)), .equal, d, e⟩ := by
    intro l d e hd he
    refine parse_of_form ?_
    rw [String.toList_ofList]
    exact form_iff_written.mpr ⟨hd, he, l, rfl⟩
  refine ⟨hwritten, fun d e => ?_, fun text c h => parse_eq_ok h⟩
  constructor
  · intro h
    rcases parse_eq_ok h with hany | ⟨-, -, hknown⟩
    · cases congrArg Condition.code hany
    · exact hknown
  · rintro ⟨hd, he⟩
    have h := hwritten .plain d e hd he
    rw [← text_equal hd he] at h
    exact h

/-- The work-item first, blanks of several kinds, leading zeros, and nothing between the
arguments. -/
def Layout.uneven : Layout where
  before := ⟨['\t', ' '], by decide⟩
  behind := ⟨['\u00a0'], by decide⟩
  groupFirst := false
  group := ⟨.none, ⟨⟨.none, 0⟩, .none, ⟨.none, 1⟩, .none, ⟨⟨['\n'], by decide⟩, 0⟩⟩⟩
  between := .none
  item := ⟨.space, ⟨⟨.none, 2⟩, .none, ⟨.none, 0⟩, .space, ⟨.space, 0⟩⟩⟩
  after := .space

/-- The largest component is understood, and so is a layout with all that is allowed. -/
theorem parse_uneven_layout :
    String.ofList (Layout.uneven.write ⟨2147483647, 0, 7⟩ ⟨1, 2, 3⟩) =
        "\t if \u00a0wi :001,2 , 3wg:2147483647,00,\n7 " ∧
      parse (some "\t if \u00a0wi :001,2 , 3wg:2147483647,00,\n7 ") =
        .ok ⟨some "\t if \u00a0wi :001,2 , 3wg:2147483647,00,\n7 ", .equal, ⟨2147483647, 0, 7⟩,
          ⟨1, 2, 3⟩⟩ := by
  have hwritten : String.ofList (Layout.uneven.write ⟨2147483647, 0, 7⟩ ⟨1, 2, 3⟩) =
      "\t if \u00a0wi :001,2 , 3wg:2147483647,00,\n7 " := by rfl
  have h := parse_every_layout.1 .uneven ⟨2147483647, 0, 7⟩ ⟨1, 2, 3⟩ (by decide) (by decide)
  rw [hwritten] at h
  exact ⟨hwritten, h⟩

end Condition

end GpuDebug
