import GpuDebug.Breakpoint.Grammar
import GpuDebug.Proofs.Literals

/-!
# The forms of a location

The locations of the grammar, described by the texts that spell them. Blanks may stand before the
marker, around the first colon and around the parts behind it.

* `Grammar.Opens`, `Grammar.Points`: the marker, and the marker with a colon behind it.
* `Grammar.Spells`: the four forms and what they mean; `Grammar.Misses`: the four ways to miss them.
* `Grammar.location_of_spells`, `Grammar.location_of_misses`: what is made of such texts.
* `Grammar.parseLocation_reads_forms`: the main result.
-/

namespace GpuDebug

open Text (Blank Around)

/-- The ways to write a location. -/
inductive LocationForm
  /-- The marker alone, or with a colon. -/
  | everywhere
  /-- A line of the active file. -/
  | line
  /-- The name of a kernel. -/
  | kernel
  /-- A file, which may be left out, and a line of it. -/
  | fileLine
  deriving DecidableEq, Repr

/-- The kind of the locations that are written in a form. -/
def LocationForm.kind : LocationForm → LocationKind
  | everywhere => .anywhere
  | line | fileLine => .source
  | kernel => .kernel

namespace Grammar

variable {g : Grammar} {cs rest target file line : List Char} {l l' : Location}
  {form form' : LocationForm} {fault : LocationFault}

/-- The marker does not start with a blank, and is not empty. -/
def Marked (g : Grammar) : Prop :=
  ∃ c others, g.marker.toList = c :: others ∧ Text.isBlank c = false

/-- The text starts with the marker, and `rest` is behind it. -/
def Opens (g : Grammar) (cs rest : List Char) : Prop :=
  ∃ before, Blank before ∧ cs = before ++ g.marker.toList ++ rest

/-- The text starts with the marker and a colon, and `target` is behind both. -/
def Points (g : Grammar) (cs target : List Char) : Prop :=
  ∃ between, Blank between ∧ g.Opens cs (between ++ ':' :: target)

/-- The texts of each form, and their meaning. -/
inductive Spells (g : Grammar) : LocationForm → List Char → Location → Prop
  | alone {cs rest : List Char} : g.Opens cs rest → Blank rest →
    Spells g .everywhere cs (.anywhere Location.anyKernel)
  | colon {cs target : List Char} : g.Points cs target → Blank target →
    Spells g .everywhere cs (.anywhere Location.anyKernel)
  | line {cs target literal : List Char} {n : UInt64} : g.Points cs target →
    Around literal target → CInteger.Denotes literal n.toNat →
    Spells g .line cs (.source (some g.activeFile) n none)
  | kernel {cs target name : List Char} : g.Points cs target → Around name target → name ≠ [] →
    ':' ∉ name → (∀ n : UInt64, ¬ CInteger.Denotes name n.toNat) →
    Spells g .kernel cs (.kernel (String.ofList name))
  | unnamedFile {cs file line literal : List Char} {n : UInt64} :
    g.Points cs (file ++ ':' :: line) → Blank file → Around literal line →
    CInteger.Denotes literal n.toNat → Spells g .fileLine cs (.source none n none)
  | namedFile {cs file line name literal : List Char} {n : UInt64} :
    g.Points cs (file ++ ':' :: line) → Around name file → name ≠ [] → ':' ∉ name →
    Around literal line → CInteger.Denotes literal n.toNat →
    Spells g .fileLine cs (.source (some (String.ofList name)) n none)

/-- The texts that are of none of the forms, by what is wrong with them. -/
inductive Misses (g : Grammar) : LocationFault → List Char → Prop
  | noMarker {cs : List Char} : (∀ rest, ¬ g.Opens cs rest) → Misses g .noMarker cs
  | noColon {cs rest : List Char} : g.Opens cs rest → ¬ Blank rest →
    (∀ target, ¬ g.Points cs target) → Misses g .noColon cs
  | manyColons {cs target : List Char} : g.Points cs target → 2 ≤ target.count ':' →
    Misses g .manyColons cs
  | badLine {cs file line : List Char} : g.Points cs (file ++ ':' :: line) → ':' ∉ file →
    ':' ∉ line → (∀ literal, Around literal line → ∀ n : UInt64,
      ¬ CInteger.Denotes literal n.toNat) → Misses g .badLine cs

/-! ## Every text spells a location or misses -/

theorem spells_file {literal : List Char} {n : UInt64} (h : g.Points cs (file ++ ':' :: line))
    (hfile : ':' ∉ file) (hline : Around literal line) (hn : CInteger.Denotes literal n.toNat) :
    ∃ l, g.Spells .fileLine cs l := by
  by_cases hblank : Blank file
  · exact ⟨_, .unnamedFile h hblank hline hn⟩
  · have haround := Text.around_trim file
    refine ⟨_, .namedFile h haround (Text.trim_eq_nil_iff.not.mpr hblank) ?_ hline hn⟩
    exact (haround.mem_iff (by decide)).not.mpr hfile

theorem spells_or_misses_of_points (h : g.Points cs target) :
    (∃ form l, g.Spells form cs l) ∨ ∃ fault, g.Misses fault cs := by
  by_cases hblank : Blank target
  · exact .inl ⟨_, _, .colon h hblank⟩
  have haround := Text.around_trim target
  by_cases hnumber : ∃ n : UInt64, CInteger.Denotes (Text.trim target) n.toNat
  · obtain ⟨n, hn⟩ := hnumber
    exact .inl ⟨_, _, .line h haround hn⟩
  by_cases hcolon : ':' ∈ target
  · obtain ⟨file, line, rfl, hfile⟩ := List.eq_append_cons_of_mem hcolon
    by_cases hmore : ':' ∈ line
    · refine .inr ⟨_, .manyColons h ?_⟩
      rw [List.count_append, List.count_cons_self]
      have := List.count_pos_iff.mpr hmore
      omega
    by_cases hline : ∃ n : UInt64, CInteger.Denotes (Text.trim line) n.toNat
    · obtain ⟨n, hn⟩ := hline
      exact .inl ⟨_, spells_file h hfile (Text.around_trim line) hn⟩
    · refine .inr ⟨_, .badLine h hfile hmore fun literal hliteral n hn => hline ⟨n, ?_⟩⟩
      rwa [hliteral.trim_eq]
  · refine .inl ⟨_, _, .kernel h haround (Text.trim_eq_nil_iff.not.mpr hblank) ?_ ?_⟩
    · exact (haround.mem_iff (by decide)).not.mpr hcolon
    · exact not_exists.mp hnumber

/-- Every text spells a location or misses. -/
theorem spells_or_misses (g : Grammar) (cs : List Char) :
    (∃ form l, g.Spells form cs l) ∨ ∃ fault, g.Misses fault cs := by
  by_cases hopens : ∃ rest, g.Opens cs rest
  · obtain ⟨rest, hrest⟩ := hopens
    by_cases hblank : Blank rest
    · exact .inl ⟨_, _, .alone hrest hblank⟩
    by_cases hpoints : ∃ target, g.Points cs target
    · obtain ⟨target, htarget⟩ := hpoints
      exact spells_or_misses_of_points htarget
    · exact .inr ⟨_, .noColon hrest hblank (not_exists.mp hpoints)⟩
  · exact .inr ⟨_, .noMarker (not_exists.mp hopens)⟩

/-! ## What the parser makes of a text -/

section Marker

variable (hmarked : g.Marked)
include hmarked

theorem after?_of_opens (h : g.Opens cs rest) :
    Text.after? g.marker.toList (Text.trimStart cs) = some rest := by
  obtain ⟨before, hbefore, rfl⟩ := h
  obtain ⟨c, others, hmarker, hc⟩ := hmarked
  rw [List.append_assoc, hmarker, List.cons_append]
  exact (Text.after?_trimStart_eq_some_iff hc).mpr ⟨before, hbefore, rfl⟩

omit hmarked in
theorem opens_of_after? (h : Text.after? g.marker.toList (Text.trimStart cs) = some rest) :
    g.Opens cs rest := by
  obtain ⟨before, hbefore, hcs⟩ := Text.exists_blank_append_trimStart cs
  rw [Text.after?_eq_some_iff] at h
  exact ⟨before, hbefore, by rw [List.append_assoc, ← h, ← hcs]⟩

/-- Behind the marker stand blanks, or blanks and a colon, or something else. -/
theorem location_of_opens (h : g.Opens cs rest) :
    g.location cs =
      if (Text.trimStart rest).isEmpty then .ok (.anywhere Location.anyKernel)
      else
        match Text.after? [':'] (Text.trimStart rest) with
        | none => .error .noColon
        | some target => g.parseTarget (Text.trimStart target) := by
  have hrest := after?_of_opens hmarked h
  unfold location
  generalize Text.after? g.marker.toList (Text.trimStart cs) = found at hrest ⊢
  subst hrest
  rfl

theorem location_of_blank (h : g.Opens cs rest) (hblank : Blank rest) :
    g.location cs = .ok (.anywhere Location.anyKernel) := by
  rw [location_of_opens hmarked h, Text.trimStart_eq_nil_iff.mpr hblank, List.isEmpty_nil,
    if_pos rfl]

theorem location_of_points (h : g.Points cs target) :
    g.location cs = g.parseTarget (Text.trimStart target) := by
  obtain ⟨between, hbetween, hopens⟩ := h
  have htrim : Text.trimStart (between ++ ':' :: target) = ':' :: target :=
    Text.trimStart_append_cons hbetween rfl target
  rw [location_of_opens hmarked hopens, htrim, List.isEmpty_cons, if_neg Bool.false_ne_true]
  rfl

end Marker

theorem parseTarget_of_blank (h : Blank target) :
    g.parseTarget (Text.trimStart target) = .ok (.anywhere Location.anyKernel) := by
  rw [Text.trimStart_eq_nil_iff.mpr h, parseTarget, List.isEmpty_nil, if_pos rfl]

/-- Behind the colon stands a number, or something without a number. -/
theorem parseTarget_of_literal {literal : List Char} {n : UInt64} (h : Around literal target)
    (hn : CInteger.Denotes literal n.toNat) :
    g.parseTarget (Text.trimStart target) = .ok (.source (some g.activeFile) n none) := by
  have hvalue : CInteger.value? (Text.trimStart target) = some n := by
    rwa [CInteger.value?_eq_some_iff, Text.trim_trimStart, h.trim_eq]
  have hne : (Text.trimStart target).isEmpty = false := by
    rw [List.isEmpty_eq_false_iff]
    intro hnil
    rw [hnil] at hvalue
    cases hvalue
  rw [parseTarget, hne, if_neg Bool.false_ne_true, hvalue]

theorem parseTarget_of_value?_none (hblank : ¬ Blank target)
    (hvalue : CInteger.value? (Text.trimStart target) = none) :
    g.parseTarget (Text.trimStart target) =
      match Text.cut? [':'] (Text.trimStart target) with
      | none => .ok (.kernel (String.ofList (Text.trim target)))
      | some (file, line) =>
        if Text.holds [':'] line then .error .manyColons
        else
          match CInteger.value? line with
          | none => .error .badLine
          | some n =>
            .ok (.source (if (Text.trim file).isEmpty then none
              else some (String.ofList (Text.trim file))) n none) := by
  have hne : (Text.trimStart target).isEmpty = false := by
    rw [List.isEmpty_eq_false_iff]
    exact Text.trimStart_eq_nil_iff.not.mpr hblank
  rw [parseTarget, hne, if_neg Bool.false_ne_true, hvalue]
  rfl

theorem parseTarget_of_name {name : List Char} (h : Around name target) (hname : name ≠ [])
    (hcolon : ':' ∉ name) (hn : ∀ n : UInt64, ¬ CInteger.Denotes name n.toNat) :
    g.parseTarget (Text.trimStart target) = .ok (.kernel (String.ofList name)) := by
  have hblank : ¬ Blank target := by
    rwa [← Text.trim_eq_nil_iff, h.trim_eq]
  have hvalue : CInteger.value? (Text.trimStart target) = none := by
    rwa [CInteger.value?_eq_none_iff, Text.trim_trimStart, h.trim_eq]
  have hcut : Text.cut? [':'] (Text.trimStart target) = none := by
    rw [Text.cut?_eq_none_iff]
    intro hmem
    obtain ⟨before, -, htarget⟩ := Text.exists_blank_append_trimStart target
    refine hcolon ((h.mem_iff (by decide)).mpr ?_)
    rw [htarget]
    exact List.mem_append_right before hmem
  rw [parseTarget_of_value?_none hblank hvalue, hcut, h.trim_eq]

/-- Where a colon stands behind the first one, a line of a file is asked for. -/
theorem parseTarget_of_cut (hfile : ':' ∉ file) :
    g.parseTarget (Text.trimStart (file ++ ':' :: line)) =
      if Text.holds [':'] line then .error .manyColons
      else
        match CInteger.value? line with
        | none => .error .badLine
        | some n =>
          .ok (.source (if (Text.trim file).isEmpty then none
            else some (String.ofList (Text.trim file))) n none) := by
  have hmem : ':' ∈ file ++ ':' :: line := List.mem_append_right file List.mem_cons_self
  have hvalue : CInteger.value? (Text.trimStart (file ++ ':' :: line)) = none := by
    rw [CInteger.value?_eq_none_iff, Text.trim_trimStart]
    exact fun n hn => hn.colon_notMem (((Text.around_trim _).mem_iff (by decide)).mpr hmem)
  have htrim : Text.trimStart (file ++ ':' :: line) = Text.trimStart file ++ ':' :: line := by
    obtain ⟨before, hbefore, hsplit⟩ := Text.exists_blank_append_trimStart file
    conv_lhs => rw [hsplit, List.append_assoc, Text.trimStart_append hbefore]
    refine Text.trimStart_eq_self fun c hc => ?_
    cases hrest : Text.trimStart file with
    | nil =>
      rw [hrest] at hc
      cases hc
      decide
    | cons d rest =>
      refine Text.head?_trimStart file c ?_
      rw [hrest] at hc ⊢
      exact hc
  have hcut : Text.cut? [':'] (Text.trimStart (file ++ ':' :: line)) =
      some (Text.trimStart file, line) := by
    rw [Text.cut?_eq_some_iff]
    refine ⟨htrim, fun hcolon => hfile ?_⟩
    obtain ⟨before, -, hsplit⟩ := Text.exists_blank_append_trimStart file
    rw [hsplit]
    exact List.mem_append_right before hcolon
  have hblank : ¬ Blank (file ++ ':' :: line) := fun h => h.notMem (by decide) hmem
  rw [parseTarget_of_value?_none hblank hvalue, hcut]
  dsimp only
  rw [Text.trim_trimStart]

theorem parseTarget_of_line {literal : List Char} {n : UInt64} (hfile : ':' ∉ file)
    (h : Around literal line) (hn : CInteger.Denotes literal n.toNat) :
    g.parseTarget (Text.trimStart (file ++ ':' :: line)) =
      .ok (.source (if (Text.trim file).isEmpty then none
        else some (String.ofList (Text.trim file))) n none) := by
  have hcolon : ¬ Text.holds [':'] line = true := by
    rw [Text.holds_eq_true_iff, ← h.mem_iff (by decide)]
    exact hn.colon_notMem
  have hvalue : CInteger.value? line = some n := by
    rwa [CInteger.value?_eq_some_iff, h.trim_eq]
  rw [parseTarget_of_cut hfile, if_neg hcolon, hvalue]

/-- **A text that spells a location is read as this location.** -/
theorem location_of_spells (hmarked : g.Marked) (h : g.Spells form cs l) :
    g.location cs = .ok l := by
  cases h with
  | alone hopens hblank => exact location_of_blank hmarked hopens hblank
  | colon hpoints hblank =>
    rw [location_of_points hmarked hpoints, parseTarget_of_blank hblank]
  | line hpoints hliteral hn =>
    rw [location_of_points hmarked hpoints, parseTarget_of_literal hliteral hn]
  | kernel hpoints haround hname hcolon hn =>
    rw [location_of_points hmarked hpoints, parseTarget_of_name haround hname hcolon hn]
  | unnamedFile hpoints hblank hline hn =>
    rw [location_of_points hmarked hpoints,
      parseTarget_of_line (hblank.notMem (by decide)) hline hn, Text.trim_eq_nil_iff.mpr hblank]
    rfl
  | namedFile hpoints haround hname hcolon hline hn =>
    rw [location_of_points hmarked hpoints,
      parseTarget_of_line ((haround.mem_iff (by decide)).not.mp hcolon) hline hn, haround.trim_eq,
      List.isEmpty_eq_false_iff.mpr hname]
    rfl

/-- **A text that misses the forms is refused for the reason that it misses them.** -/
theorem location_of_misses (hmarked : g.Marked) (h : g.Misses fault cs) :
    g.location cs = .error fault := by
  cases h with
  | noMarker hnone =>
    have hafter : Text.after? g.marker.toList (Text.trimStart cs) = none :=
      Option.eq_none_iff_forall_ne_some.mpr fun rest hrest => hnone rest (opens_of_after? hrest)
    rw [location, hafter]
  | @noColon _ rest hopens hblank hnone =>
    have hne : (Text.trimStart rest).isEmpty = false := by
      rw [List.isEmpty_eq_false_iff]
      exact Text.trimStart_eq_nil_iff.not.mpr hblank
    have hafter : Text.after? [':'] (Text.trimStart rest) = none := by
      refine Option.eq_none_iff_forall_ne_some.mpr fun target htarget => hnone target ?_
      obtain ⟨between, hbetween, hrest⟩ := Text.exists_blank_append_trimStart rest
      rw [Text.after?_eq_some_iff.mp htarget] at hrest
      exact ⟨between, hbetween, hrest ▸ hopens⟩
    rw [location_of_opens hmarked hopens, hne, if_neg Bool.false_ne_true, hafter]
  | @manyColons _ target hpoints hcount =>
    obtain ⟨file, line, rfl, hfile⟩ :=
      List.eq_append_cons_of_mem (List.count_pos_iff.mp (by omega : 0 < target.count ':'))
    rw [List.count_append, List.count_cons_self, List.count_eq_zero.mpr hfile] at hcount
    have hmore : ':' ∈ line := List.count_pos_iff.mp (by omega)
    rw [location_of_points hmarked hpoints, parseTarget_of_cut hfile,
      if_pos (Text.holds_eq_true_iff.mpr hmore)]
  | badLine hpoints hfile hmore hn =>
    have hvalue : CInteger.value? _ = none :=
      CInteger.value?_eq_none_iff.mpr (hn _ (Text.around_trim _))
    rw [location_of_points hmarked hpoints, parseTarget_of_cut hfile,
      if_neg (Text.holds_eq_true_iff.not.mpr hmore), hvalue]

theorem location_eq_ok_iff (hmarked : g.Marked) :
    g.location cs = .ok l ↔ ∃ form, g.Spells form cs l := by
  constructor
  · intro h
    rcases g.spells_or_misses cs with ⟨form, l', hspells⟩ | ⟨fault, hmisses⟩
    · rw [location_of_spells hmarked hspells] at h
      cases h
      exact ⟨form, hspells⟩
    · rw [location_of_misses hmarked hmisses] at h
      cases h
  · rintro ⟨form, hspells⟩
    exact location_of_spells hmarked hspells

/-- The fault that is reported is what is wrong with the text. -/
theorem location_eq_error_iff (hmarked : g.Marked) :
    g.location cs = .error fault ↔ g.Misses fault cs := by
  constructor
  · intro h
    rcases g.spells_or_misses cs with ⟨form, l, hspells⟩ | ⟨fault', hmisses⟩
    · rw [location_of_spells hmarked hspells] at h
      cases h
    · rw [location_of_misses hmarked hmisses] at h
      cases h
      exact hmisses
  · exact location_of_misses hmarked

/-! ## No text is of two forms -/

theorem Points.unique (hmarked : g.Marked) {target' : List Char} (h : g.Points cs target)
    (h' : g.Points cs target') : target = target' := by
  obtain ⟨between, hbetween, hopens⟩ := h
  obtain ⟨between', hbetween', hopens'⟩ := h'
  have hcolon : ∀ target : List Char, Text.trimStart (':' :: target) = ':' :: target :=
    fun _ => Text.trimStart_eq_self fun c hc => by cases hc; decide
  have hrest := Option.some.inj
    ((after?_of_opens hmarked hopens).symm.trans (after?_of_opens hmarked hopens'))
  have hbehind := congrArg Text.trimStart hrest
  rw [Text.trimStart_append hbetween, Text.trimStart_append hbetween', hcolon, hcolon] at hbehind
  exact (List.cons.inj hbehind).2

theorem Spells.not_line_and_fileLine (hmarked : g.Marked) (h : g.Spells .line cs l) :
    ¬ g.Spells .fileLine cs l' := by
  cases h with
  | line hpoints hliteral hn =>
    have hcolon := (hliteral.mem_iff (by decide)).not.mp hn.colon_notMem
    intro h'
    cases h' with
    | unnamedFile hpoints' =>
      exact hcolon (hpoints.unique hmarked hpoints' ▸ List.mem_append_right _ List.mem_cons_self)
    | namedFile hpoints' =>
      exact hcolon (hpoints.unique hmarked hpoints' ▸ List.mem_append_right _ List.mem_cons_self)

theorem Spells.kind_eq (h : g.Spells form cs l) : l.kind = form.kind := by
  cases h <;> rfl

/-- A text is of one form and spells one location. -/
theorem Spells.unique (hmarked : g.Marked) (h : g.Spells form cs l) (h' : g.Spells form' cs l') :
    form = form' ∧ l = l' := by
  have hl : l = l' :=
    Except.ok.inj ((location_of_spells hmarked h).symm.trans (location_of_spells hmarked h'))
  have hkind : form.kind = form'.kind := by rw [← h.kind_eq, ← h'.kind_eq, hl]
  refine ⟨?_, hl⟩
  -- Only the two forms of a line have one kind.
  cases form with
  | everywhere => cases form' <;> first | rfl | cases hkind
  | kernel => cases form' <;> first | rfl | cases hkind
  | line =>
    cases form' with
    | line => rfl
    | fileLine => exact absurd h' (h.not_line_and_fileLine hmarked)
    | everywhere | kernel => cases hkind
  | fileLine =>
    cases form' with
    | fileLine => rfl
    | line => exact absurd h (h'.not_line_and_fileLine hmarked)
    | everywhere | kernel => cases hkind

/-! ## The grammar -/

theorem parseLocation_eq_ok_iff {text : String} :
    g.parseLocation text = .ok l ↔ g.location text.toList = .ok l := by
  unfold parseLocation
  cases g.location text.toList with
  | ok l' => simp only [Except.ok.injEq]
  | error fault => exact iff_of_false nofun nofun

/-- **The forms of a location.** For a marker that does not start with a blank, a text is read
exactly if it is of one of the four forms, and as what the form means. No text is of two forms.
Every other text is refused: one without the marker, one with something else than blanks between
the marker and the colon, one with two more colons behind that, and one with a file and no number of
a line, each for its own reason. -/
theorem parseLocation_reads_forms (hmarked : g.Marked) (text : String) :
    (∀ l, g.parseLocation text = .ok l ↔ ∃ form, g.Spells form text.toList l) ∧
      (∀ form form' l l', g.Spells form text.toList l → g.Spells form' text.toList l' →
        form = form' ∧ l = l') ∧
      ((∃ detail, g.parseLocation text = .error (.breakpointText detail)) ↔
        ∀ form l, ¬ g.Spells form text.toList l) ∧
      ∀ fault, g.Misses fault text.toList → g.parseLocation text = .error (fault.error text) := by
  have hmisses : ∀ fault, g.Misses fault text.toList →
      g.parseLocation text = .error (fault.error text) := by
    intro fault h
    rw [parseLocation, location_of_misses hmarked h]
  refine ⟨fun l => ?_, fun _ _ _ _ h h' => h.unique hmarked h', ?_, hmisses⟩
  · rw [parseLocation_eq_ok_iff, location_eq_ok_iff hmarked]
  · constructor
    · rintro ⟨detail, hdetail⟩ form l h
      rw [parseLocation_eq_ok_iff.mpr (location_of_spells hmarked h)] at hdetail
      cases hdetail
    · intro hnone
      rcases g.spells_or_misses text.toList with ⟨form, l, h⟩ | ⟨fault, h⟩
      · exact absurd h (hnone form l)
      · exact ⟨_, hmisses fault h⟩

/-- A file and a hexadecimal line with blanks everywhere, and a text with a colon too many. -/
theorem padded_line_of_file_read :
    let g : Grammar := ⟨"rocm", "temp_source"⟩
    g.parseLocation " rocm : dir/k.cl : 0x1F " = .ok (.source (some "dir/k.cl") 31 none) ∧
      g.parseLocation "rocm:a:b:3" = .error (LocationFault.manyColons.error "rocm:a:b:3") := by
  intro g
  have hmarked : g.Marked := ⟨'r', "ocm".toList, by decide, by decide⟩
  have hblank : Blank " ".toList := by decide
  have hpoints : g.Points " rocm : dir/k.cl : 0x1F ".toList (" dir/k.cl ".toList ++
      ':' :: " 0x1F ".toList) := ⟨" ".toList, hblank, " ".toList, hblank, by decide⟩
  have hfile : Around "dir/k.cl".toList " dir/k.cl ".toList := Text.trim_eq_iff.mp (by decide)
  have hline : Around "0x1F".toList " 0x1F ".toList := Text.trim_eq_iff.mp (by decide)
  have hnumber : CInteger.Denotes "0x1F".toList (31 : UInt64).toNat :=
    CInteger.denotes_iff.mpr (by decide)
  refine ⟨((parseLocation_reads_forms hmarked _).1 _).mpr ⟨.fileLine, ?_⟩, ?_⟩
  · exact .namedFile hpoints hfile (by decide) (by decide) hline hnumber
  · have hpoints' : g.Points "rocm:a:b:3".toList "a:b:3".toList :=
      ⟨[], nofun, [], nofun, by decide⟩
    exact (parseLocation_reads_forms hmarked _).2.2.2 _ (.manyColons hpoints' (by decide))

end Grammar

end GpuDebug
