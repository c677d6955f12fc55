import GpuDebug.Proofs.Catalog
import Mathlib.Data.List.DropRight
import Mathlib.Data.List.Induction
import Mathlib.Data.List.Nodup

/-!
# The catalog as a count of launches

The catalog is a summary of the launches registered since it was last cleared. Kernels and, inside
a kernel, geometries are listed in the order in which they were first seen, each with the number of
its launches.

* `changeOrAppend`: the step that both lists of the catalog share.
* `KernelCatalog.Call`, `KernelCatalog.after`, `KernelCatalog.sinceClear`: runs of the catalog, and
  the launches that count.
* `Kernel.Counts`, `KernelCatalog.Counts`: what the catalog says of these launches;
  `KernelCatalog.Counts.register` is the step, `KernelCatalog.counts_after` the run.
* `KernelCatalog.activeDispatch?_placedAfter`: the active dispatch is the one at the place that was
  fixed when it was registered.
* `KernelCatalog.after_counts_launches`: the main result.
-/

namespace GpuDebug

/-! ## Distinct elements in the order of their first occurrence -/

section Distinct

variable {α : Type} [BEq α] [LawfulBEq α] {x : α} {xs : List α}

theorem eraseDups_concat_of_mem (h : x ∈ xs) : (xs ++ [x]).eraseDups = xs.eraseDups := by
  have hnone : [x].removeAll xs = [] := by simp [List.removeAll, h]
  rw [List.eraseDups_append, hnone, List.eraseDups_nil, List.append_nil]

theorem eraseDups_concat_of_notMem (h : x ∉ xs) : (xs ++ [x]).eraseDups = xs.eraseDups ++ [x] := by
  have hall : [x].removeAll xs = [x] := by simp [List.removeAll, h]
  rw [List.eraseDups_append, hall, List.eraseDups_cons, List.filter_nil, List.eraseDups_nil]

theorem nodup_eraseDups (xs : List α) : xs.eraseDups.Nodup := by
  induction xs using List.reverseRecOn with
  | nil => exact List.nodup_nil
  | append_singleton xs x ih =>
    by_cases h : x ∈ xs
    · rwa [eraseDups_concat_of_mem h]
    · rw [eraseDups_concat_of_notMem h, ← List.concat_eq_append]
      exact ih.concat (List.mem_eraseDups.not.mpr h)

end Distinct

/-! ## Entries under keys -/

section Entries

variable {α κ : Type} [BEq κ] [LawfulBEq κ]

/-- Changes the first entry under a key; without one, a new entry goes to the end. -/
def changeOrAppend (key : α → κ) (k : κ) (change : α → α) (fresh : α) : List α → List α
  | [] => [fresh]
  | x :: xs => if key x == k then change x :: xs else x :: changeOrAppend key k change fresh xs

variable {key : α → κ} {k : κ} {change : α → α} {fresh : α} {xs : List α}

theorem map_key_changeOrAppend_of_mem (hchange : ∀ x, key (change x) = key x)
    (h : k ∈ xs.map key) : (changeOrAppend key k change fresh xs).map key = xs.map key := by
  induction xs with
  | nil => cases h
  | cons x xs ih =>
    rw [changeOrAppend]
    by_cases hx : key x = k
    · rw [if_pos (beq_iff_eq.mpr hx), List.map_cons, hchange, List.map_cons]
    · have hxs : k ∈ xs.map key := (List.mem_cons.mp h).resolve_left (Ne.symm hx)
      rw [if_neg (by simpa using hx), List.map_cons, ih hxs, List.map_cons]

theorem map_key_changeOrAppend_of_notMem (hfresh : key fresh = k) (h : k ∉ xs.map key) :
    (changeOrAppend key k change fresh xs).map key = xs.map key ++ [k] := by
  induction xs with
  | nil => exact congrArg (fun k => [k]) hfresh
  | cons x xs ih =>
    rw [List.map_cons, List.mem_cons, not_or] at h
    rw [changeOrAppend, if_neg (by simpa using Ne.symm h.1), List.map_cons, ih h.2, List.map_cons,
      List.cons_append]

/-- Keys listed in the order of their first occurrence stay listed so. -/
theorem map_key_changeOrAppend {ks : List κ} (hchange : ∀ x, key (change x) = key x)
    (hfresh : key fresh = k) (h : xs.map key = ks.eraseDups) :
    (changeOrAppend key k change fresh xs).map key = (ks ++ [k]).eraseDups := by
  have hmem : k ∈ xs.map key ↔ k ∈ ks := by rw [h, List.mem_eraseDups]
  by_cases hk : k ∈ ks
  · rw [map_key_changeOrAppend_of_mem hchange (hmem.mpr hk), h, eraseDups_concat_of_mem hk]
  · rw [map_key_changeOrAppend_of_notMem hfresh (hmem.not.mpr hk), h, eraseDups_concat_of_notMem hk]

/-- An entry is one under another key, the changed one, or the new one. -/
theorem mem_changeOrAppend {y : α} (hnodup : (xs.map key).Nodup)
    (h : y ∈ changeOrAppend key k change fresh xs) :
    (y ∈ xs ∧ key y ≠ k) ∨ (∃ x ∈ xs, key x = k ∧ y = change x) ∨ (k ∉ xs.map key ∧ y = fresh) := by
  induction xs with
  | nil => exact .inr (.inr ⟨List.not_mem_nil, List.mem_singleton.mp h⟩)
  | cons x xs ih =>
    rw [List.map_cons, List.nodup_cons] at hnodup
    rw [changeOrAppend] at h
    by_cases hx : key x = k
    · rw [if_pos (beq_iff_eq.mpr hx)] at h
      rcases List.mem_cons.mp h with rfl | hy
      · exact .inr (.inl ⟨x, List.mem_cons_self, hx, rfl⟩)
      · refine .inl ⟨List.mem_cons_of_mem x hy, fun hkey => hnodup.1 ?_⟩
        rw [hx, ← hkey]
        exact List.mem_map_of_mem hy
    · rw [if_neg (by simpa using hx)] at h
      rcases List.mem_cons.mp h with rfl | hy
      · exact .inl ⟨List.mem_cons_self, hx⟩
      · rcases ih hnodup.2 hy with ⟨hmem, hne⟩ | ⟨z, hz, hkey, rfl⟩ | ⟨hnone, rfl⟩
        · exact .inl ⟨List.mem_cons_of_mem x hmem, hne⟩
        · exact .inr (.inl ⟨z, List.mem_cons_of_mem x hz, hkey, rfl⟩)
        · refine .inr (.inr ⟨?_, rfl⟩)
          rw [List.map_cons, List.mem_cons, not_or]
          exact ⟨Ne.symm hx, hnone⟩

/-- The entry under a key stands where the first one under it was, or at the end. -/
theorem getElem?_findIdx_changeOrAppend (hchange : ∀ x, key (change x) = key x)
    (hfresh : key fresh = k) :
    (changeOrAppend key k change fresh xs)[xs.findIdx (key · == k)]? =
      (changeOrAppend key k change fresh xs).find? (key · == k) := by
  induction xs with
  | nil =>
    rw [changeOrAppend, List.find?_cons_of_pos (by simpa using hfresh)]
    rfl
  | cons x xs ih =>
    rw [changeOrAppend, List.findIdx_cons]
    by_cases hx : key x = k
    · rw [if_pos (beq_iff_eq.mpr hx), List.find?_cons_of_pos (by simp [hchange, hx]),
        beq_iff_eq.mpr hx, cond_true, List.getElem?_cons_zero]
    · rw [if_neg (by simp [hx]), List.find?_cons_of_neg (by simp [hx]), beq_false_of_ne hx,
        cond_false, List.getElem?_cons_succ, ih]

end Entries

/-! ## The launches of one kernel -/

/-- The work-group and grid size of a dispatch. -/
def Dispatch.geometry (d : Dispatch) : Dim × Dim := (d.groupSize, d.gridSize)

/-- The work-group and grid size of a launch. -/
def Launch.geometry (l : Launch) : Dim × Dim := (l.groupSize, l.gridSize)

namespace Kernel

variable {k : Kernel} {groupSize gridSize : Dim} {geometries : List (Dim × Dim)}

theorem countIn_eq (groupSize gridSize : Dim) (dispatches : List Dispatch) :
    countIn groupSize gridSize dispatches = changeOrAppend Dispatch.geometry (groupSize, gridSize)
      (fun d => { d with count := d.count + 1 }) ⟨groupSize, gridSize, 1⟩ dispatches := by
  induction dispatches with
  | nil => rfl
  | cons d dispatches ih =>
    rw [countIn, changeOrAppend, ih]
    rfl

theorem foldl_count_succ (start : Nat) (dispatches : List Dispatch) :
    dispatches.foldl (fun total d => total + d.count) (start + 1) =
      dispatches.foldl (fun total d => total + d.count) start + 1 := by
  induction dispatches generalizing start with
  | nil => rfl
  | cons d dispatches ih => rw [List.foldl_cons, List.foldl_cons, Nat.add_right_comm, ih]

/-- The launches of a list of dispatches, whatever was counted before them. -/
theorem foldl_countIn (start : Nat) (dispatches : List Dispatch) :
    (countIn groupSize gridSize dispatches).foldl (fun total d => total + d.count) start =
      dispatches.foldl (fun total d => total + d.count) start + 1 := by
  induction dispatches generalizing start with
  | nil => rfl
  | cons d dispatches ih =>
    rw [countIn]
    split
    · rw [List.foldl_cons, List.foldl_cons, ← Nat.add_assoc, foldl_count_succ]
    · rw [List.foldl_cons, List.foldl_cons, ih]

theorem launchCount_launch (k : Kernel) :
    (k.launch groupSize gridSize).launchCount = k.launchCount + 1 :=
  foldl_countIn 0 k.dispatches

/-- A launch is counted where the dispatch of its geometry was, or at the end. -/
theorem getElem?_findIdx_launch (k : Kernel) (groupSize gridSize : Dim) :
    (k.launch groupSize gridSize).dispatches[
        k.dispatches.findIdx (Dispatch.hasGeometry groupSize gridSize)]? =
      (k.launch groupSize gridSize).dispatch? groupSize gridSize := by
  change (countIn groupSize gridSize k.dispatches)[_]? =
    (countIn groupSize gridSize k.dispatches).find? _
  rw [countIn_eq]
  exact getElem?_findIdx_changeOrAppend (fun _ => rfl) rfl

/-- The dispatches of a kernel count launches of the given geometries. -/
structure Counts (k : Kernel) (geometries : List (Dim × Dim)) : Prop where
  listed : k.dispatches.map (·.geometry) = geometries.eraseDups
  count : ∀ d ∈ k.dispatches, d.count = geometries.count d.geometry
  launchCount : k.launchCount = geometries.length

theorem counts_nil (name : String) : Counts ⟨name, []⟩ [] := ⟨rfl, nofun, rfl⟩

/-- One more launch is counted. -/
theorem Counts.launch (h : k.Counts geometries) :
    (k.launch groupSize gridSize).Counts (geometries ++ [(groupSize, gridSize)]) where
  listed := by
    change (countIn groupSize gridSize k.dispatches).map _ = _
    rw [countIn_eq]
    exact map_key_changeOrAppend (fun _ => rfl) rfl h.listed
  count := by
    intro d hd
    have hnodup : (k.dispatches.map (·.geometry)).Nodup := h.listed ▸ nodup_eraseDups geometries
    change d ∈ countIn groupSize gridSize k.dispatches at hd
    rw [countIn_eq] at hd
    rw [List.count_append]
    rcases mem_changeOrAppend hnodup hd with ⟨hmem, hne⟩ | ⟨e, he, hkey, rfl⟩ | ⟨hnone, rfl⟩
    · rw [h.count d hmem, List.count_singleton, if_neg (by simpa using hne.symm), Nat.add_zero]
    · change e.count + 1 = geometries.count e.geometry + List.count e.geometry _
      rw [h.count e he, hkey, List.count_singleton_self]
    · rw [h.listed, List.mem_eraseDups] at hnone
      change 1 = geometries.count (groupSize, gridSize) + List.count (groupSize, gridSize) _
      rw [List.count_eq_zero.mpr hnone, List.count_singleton_self]
  launchCount := by
    rw [launchCount_launch, h.launchCount, List.length_append, List.length_singleton]

end Kernel

/-! ## The launches of all kernels -/

namespace KernelCatalog

variable {c : KernelCatalog} {history : List Launch} {l : Launch}

theorem countIn_eq (l : Launch) (kernels : List Kernel) :
    countIn l kernels = changeOrAppend Kernel.name l.kernel (·.launch l.groupSize l.gridSize)
      (Kernel.launch ⟨l.kernel, []⟩ l.groupSize l.gridSize) kernels := by
  induction kernels with
  | nil => rfl
  | cons k kernels ih =>
    rw [countIn, changeOrAppend, ih]

/-- The geometries with which a kernel was launched. -/
def geometriesOf (history : List Launch) (name : String) : List (Dim × Dim) :=
  (history.filter (·.kernel == name)).map (·.geometry)

theorem geometriesOf_concat_self (history : List Launch) (l : Launch) :
    geometriesOf (history ++ [l]) l.kernel = geometriesOf history l.kernel ++ [l.geometry] := by
  simp [geometriesOf]

theorem geometriesOf_concat_of_ne {name : String} (h : l.kernel ≠ name) (history : List Launch) :
    geometriesOf (history ++ [l]) name = geometriesOf history name := by
  simp [geometriesOf, h]

theorem geometriesOf_of_notMem {name : String} (h : name ∉ history.map (·.kernel)) :
    geometriesOf history name = [] := by
  rw [geometriesOf, List.map_eq_nil_iff, List.filter_eq_nil_iff]
  intro l hl hname
  exact h (List.mem_map.mpr ⟨l, hl, beq_iff_eq.mp hname⟩)

theorem count_geometriesOf (history : List Launch) (l : Launch) :
    (geometriesOf history l.kernel).count l.geometry = history.count l := by
  induction history with
  | nil => rfl
  | cons m history ih =>
    unfold geometriesOf at ih ⊢
    rw [List.filter_cons, List.count_cons, ← ih]
    by_cases hkernel : m.kernel = l.kernel
    · have hsame : (m.geometry == l.geometry) = (m == l) := by
        rw [Bool.eq_iff_iff, beq_iff_eq, beq_iff_eq]
        constructor
        · intro h
          obtain ⟨hgroup, hgrid⟩ := Prod.mk.inj h
          cases m
          cases l
          congr
        · exact congrArg Launch.geometry
      rw [if_pos (beq_iff_eq.mpr hkernel), List.map_cons, List.count_cons, hsame]
    · have hne : ¬ (m == l) = true := fun h => hkernel (congrArg Launch.kernel (beq_iff_eq.mp h))
      rw [if_neg (by simpa using hkernel), if_neg hne, Nat.add_zero]

theorem length_geometriesOf (history : List Launch) (name : String) :
    (geometriesOf history name).length = (history.map (·.kernel)).count name := by
  rw [geometriesOf, List.length_map, ← List.countP_eq_length_filter, List.count, List.countP_map]
  rfl

/-- The catalog counts the launches of a history. -/
structure Counts (c : KernelCatalog) (history : List Launch) : Prop where
  listed : c.kernels.map (·.name) = (history.map (·.kernel)).eraseDups
  kernels : ∀ k ∈ c.kernels, k.Counts (geometriesOf history k.name)
  last : c.last = history.getLast?

theorem counts_empty : empty.Counts [] := ⟨rfl, nofun, rfl⟩

/-- **One more launch is counted.** -/
theorem Counts.register (h : c.Counts history) (l : Launch) :
    (c.register l).Counts (history ++ [l]) where
  listed := by
    change (countIn l c.kernels).map _ = _
    rw [countIn_eq, List.map_append, List.map_singleton]
    exact map_key_changeOrAppend (fun _ => rfl) rfl h.listed
  kernels := by
    intro k hk
    have hnodup : (c.kernels.map (·.name)).Nodup := h.listed ▸ nodup_eraseDups _
    change k ∈ countIn l c.kernels at hk
    rw [countIn_eq] at hk
    rcases mem_changeOrAppend hnodup hk with ⟨hmem, hne⟩ | ⟨m, hm, hname, rfl⟩ | ⟨hnone, rfl⟩
    · rw [geometriesOf_concat_of_ne hne.symm]
      exact h.kernels k hmem
    · change (m.launch l.groupSize l.gridSize).Counts (geometriesOf _ m.name)
      rw [hname, geometriesOf_concat_self, ← hname]
      exact (h.kernels m hm).launch
    · change (Kernel.launch ⟨l.kernel, []⟩ l.groupSize l.gridSize).Counts (geometriesOf _ l.kernel)
      rw [h.listed, List.mem_eraseDups] at hnone
      rw [geometriesOf_concat_self, geometriesOf_of_notMem hnone]
      exact (Kernel.counts_nil l.kernel).launch
  last := by
    rw [List.getLast?_concat]
    rfl

/-! ## Runs of the catalog -/

/-- What is done with a catalog. -/
inductive Call
  | register (l : Launch)
  | clear
  deriving DecidableEq, Repr

namespace Call

/-- The launch that is registered. -/
def launch? : Call → Option Launch
  | register l => some l
  | clear => none

def apply (c : KernelCatalog) : Call → KernelCatalog
  | register l => c.register l
  | clear => empty

end Call

/-- The catalog after some calls. -/
def after (calls : List Call) : KernelCatalog :=
  calls.foldl Call.apply empty

/-- The launches registered since the catalog was cleared last, the first one first. -/
def sinceClear (calls : List Call) : List Launch :=
  (calls.rtakeWhile (·.launch?.isSome)).filterMap Call.launch?

theorem after_concat (calls : List Call) (call : Call) :
    after (calls ++ [call]) = call.apply (after calls) := by
  rw [after, List.foldl_append]
  rfl

theorem sinceClear_concat_register (calls : List Call) (l : Launch) :
    sinceClear (calls ++ [.register l]) = sinceClear calls ++ [l] := by
  rw [sinceClear, List.rtakeWhile_concat_pos _ _ _ rfl, List.filterMap_append]
  rfl

theorem sinceClear_concat_clear (calls : List Call) : sinceClear (calls ++ [.clear]) = [] := by
  rw [sinceClear, List.rtakeWhile_concat_neg _ _ _ Bool.false_ne_true]
  rfl

/-- After any calls the catalog counts the launches since it was cleared last. -/
theorem counts_after (calls : List Call) : (after calls).Counts (sinceClear calls) := by
  induction calls using List.reverseRecOn with
  | nil => exact counts_empty
  | append_singleton calls call ih =>
    rw [after_concat]
    cases call with
    | register l =>
      rw [sinceClear_concat_register]
      exact ih.register l
    | clear =>
      rw [sinceClear_concat_clear]
      exact counts_empty

/-- No more launches count than were registered at all. -/
theorem length_sinceClear_le (calls : List Call) :
    (sinceClear calls).length ≤ calls.countP (·.launch?.isSome) := by
  rw [sinceClear, List.length_filterMap_eq_countP]
  exact (List.rtakeWhile_suffix _ _).sublist.countP_le

/-! ## The place of the active dispatch

The active dispatch is looked up by the name and the geometry of the launch registered last. It can
also be kept as a place, which is fixed when the launch is registered: the position of a kernel and
that of one of its dispatches. -/

/-- Where a launch is counted. What is not listed yet goes to the end. -/
def place (c : KernelCatalog) (l : Launch) : Nat × Nat :=
  (c.kernels.findIdx (·.name == l.kernel),
    ((c.kernel? l.kernel).getD ⟨l.kernel, []⟩).dispatches.findIdx
      (Dispatch.hasGeometry l.groupSize l.gridSize))

/-- The kernel and the dispatch at a place. -/
def at? (c : KernelCatalog) (place : Nat × Nat) : Option (Kernel × Dispatch) := do
  let k ← c.kernels[place.1]?
  let d ← k.dispatches[place.2]?
  return (k, d)

/-- The place that a call makes the active one. -/
def Call.place? (c : KernelCatalog) : Call → Option (Nat × Nat)
  | register l => some (c.place l)
  | clear => none

/-- The catalog after some calls, and the place that the last of them made the active one. -/
def placedAfter (calls : List Call) : KernelCatalog × Option (Nat × Nat) :=
  calls.foldl (fun state call => (call.apply state.1, call.place? state.1)) (empty, none)

theorem getElem?_place (c : KernelCatalog) (l : Launch) :
    (c.register l).kernels[(c.place l).1]? = (c.register l).kernel? l.kernel := by
  change (countIn l c.kernels)[_]? = (countIn l c.kernels).find? _
  rw [countIn_eq]
  exact getElem?_findIdx_changeOrAppend (fun _ => rfl) rfl

/-- **A launch that is registered is found at its place.** -/
theorem at?_place (c : KernelCatalog) (l : Launch) :
    (c.register l).at? (c.place l) = (c.register l).activeDispatch? := by
  unfold at? activeDispatch?
  change ((c.register l).kernels[(c.place l).1]?).bind _ = ((c.register l).kernel? l.kernel).bind _
  rw [getElem?_place, kernel?_register, Option.bind_some, Option.bind_some,
    ← Kernel.getElem?_findIdx_launch]
  rfl

/-- **The active dispatch stands at the place that is kept**, whatever was done with the catalog. -/
theorem activeDispatch?_placedAfter (calls : List Call) :
    (placedAfter calls).1 = after calls ∧
      (after calls).activeDispatch? = (placedAfter calls).2.bind (after calls).at? := by
  induction calls using List.reverseRecOn with
  | nil => exact ⟨rfl, rfl⟩
  | append_singleton calls call ih =>
    have hstep : placedAfter (calls ++ [call]) =
        (call.apply (after calls), call.place? (after calls)) := by
      rw [placedAfter, List.foldl_append, ← ih.1]
      rfl
    rw [hstep, after_concat]
    refine ⟨rfl, ?_⟩
    cases call with
    | register l => exact (at?_place (after calls) l).symm
    | clear => rfl

/-! ## What can be read off the catalog -/

/-- The launches of one kernel and geometry. -/
theorem Counts.count_eq (h : c.Counts history) {k : Kernel} (hk : k ∈ c.kernels) {d : Dispatch}
    (hd : d ∈ k.dispatches) : d.count = history.count ⟨k.name, d.groupSize, d.gridSize⟩ := by
  rw [(h.kernels k hk).count d hd]
  exact count_geometriesOf history ⟨k.name, d.groupSize, d.gridSize⟩

theorem Counts.activeDispatch?_of_nil (h : c.Counts []) : c.activeDispatch? = none := by
  unfold activeDispatch?
  rw [h.last]
  rfl

/-- The launch registered last is the active one. -/
theorem Counts.activeDispatch?_of_last (h : c.Counts history) (hlast : history.getLast? = some l) :
    ∃ k ∈ c.kernels, ∃ d ∈ k.dispatches, c.activeDispatch? = some (k, d) ∧ k.name = l.kernel ∧
      d.geometry = l.geometry ∧ d.count = history.count l := by
  have hl : l ∈ history := List.mem_of_getLast? hlast
  have hname : l.kernel ∈ c.kernels.map (·.name) := by
    rw [h.listed, List.mem_eraseDups]
    exact List.mem_map_of_mem hl
  obtain ⟨k, hkernel⟩ : ∃ k, c.kernel? l.kernel = some k := by
    obtain ⟨m, hm, hmname⟩ := List.mem_map.mp hname
    exact Option.isSome_iff_exists.mp (List.find?_isSome.mpr ⟨m, hm, beq_iff_eq.mpr hmname⟩)
  have hk : k ∈ c.kernels := List.mem_of_find?_eq_some hkernel
  have hfound := List.find?_some (p := fun m : Kernel => m.name == l.kernel) hkernel
  have hkname : k.name = l.kernel := beq_iff_eq.mp hfound
  have hgeometry : l.geometry ∈ k.dispatches.map (·.geometry) := by
    rw [(h.kernels k hk).listed, List.mem_eraseDups, hkname]
    exact List.mem_map_of_mem (List.mem_filter.mpr ⟨hl, beq_self_eq_true l.kernel⟩)
  obtain ⟨d, hdispatch⟩ : ∃ d, k.dispatch? l.groupSize l.gridSize = some d := by
    obtain ⟨e, he, hegeometry⟩ := List.mem_map.mp hgeometry
    refine Option.isSome_iff_exists.mp (List.find?_isSome.mpr ⟨e, he, ?_⟩)
    exact Dispatch.hasGeometry_iff.mpr (Prod.mk.inj hegeometry)
  have hd : d ∈ k.dispatches := List.mem_of_find?_eq_some hdispatch
  obtain ⟨hgroup, hgrid⟩ := Dispatch.hasGeometry_iff.mp (List.find?_some hdispatch)
  refine ⟨k, hk, d, hd, ?_, hkname, Prod.ext hgroup hgrid, ?_⟩
  · unfold activeDispatch?
    rw [h.last, hlast, Option.bind_eq_bind, Option.bind_some, hkernel, Option.bind_eq_bind,
      Option.bind_some, hdispatch]
    rfl
  · rw [h.count_eq hk hd, hkname, hgroup, hgrid]

/-- **The catalog is an exact count of launches.** After any calls, the names of its kernels are
those of the launches registered since it was cleared last, each once, in the order in which they
came first; the dispatches of a kernel have the geometries of its launches, each once, in the order
in which they came first; a dispatch counts the launches of its kernel with its geometry, never more
than were registered, and a kernel counts all of its launches. The active dispatch is that of the
launch registered last, with its present count; there is none if nothing was registered since. -/
theorem after_counts_launches (calls : List Call) :
    let c := after calls
    let history := sinceClear calls
    ((c.kernels.map (·.name)).Nodup ∧
      c.kernels.map (·.name) = (history.map (·.kernel)).eraseDups) ∧
    (∀ k ∈ c.kernels,
      ((k.dispatches.map (·.geometry)).Nodup ∧
        k.dispatches.map (·.geometry) = (geometriesOf history k.name).eraseDups) ∧
      (∀ d ∈ k.dispatches, d.count = history.count ⟨k.name, d.groupSize, d.gridSize⟩ ∧
        d.count ≤ calls.countP (·.launch?.isSome)) ∧
      k.launchCount = (history.map (·.kernel)).count k.name) ∧
    match history.getLast? with
    | none => c.activeDispatch? = none
    | some l => ∃ k ∈ c.kernels, ∃ d ∈ k.dispatches, c.activeDispatch? = some (k, d) ∧
        k.name = l.kernel ∧ d.geometry = l.geometry ∧ d.count = history.count l := by
  intro c history
  have h : c.Counts history := counts_after calls
  refine ⟨⟨h.listed ▸ nodup_eraseDups _, h.listed⟩, fun k hk => ⟨⟨?_, ?_⟩, fun d hd => ?_, ?_⟩, ?_⟩
  · exact (h.kernels k hk).listed ▸ nodup_eraseDups _
  · exact (h.kernels k hk).listed
  · have hcount := h.count_eq hk hd
    refine ⟨hcount, ?_⟩
    calc d.count = history.count ⟨k.name, d.groupSize, d.gridSize⟩ := hcount
      _ ≤ history.length := List.count_le_length
      _ ≤ calls.countP (·.launch?.isSome) := length_sinceClear_le calls
  · rw [(h.kernels k hk).launchCount, length_geometriesOf]
  · cases hlast : history.getLast? with
    | none =>
      rw [List.getLast?_eq_none_iff.mp hlast] at h
      exact h.activeDispatch?_of_nil
    | some l => exact h.activeDispatch?_of_last hlast

/-- A kernel that is launched before a clear and twice after it, with another one between, is listed
first and counted twice. -/
theorem relaunch_is_counted_twice :
    let vadd : Launch := ⟨"vadd", ⟨64, 1, 1⟩, ⟨256, 1, 1⟩⟩
    let scan : Launch := ⟨"scan", ⟨32, 1, 1⟩, ⟨256, 1, 1⟩⟩
    let c := after [.register vadd, .clear, .register vadd, .register scan, .register vadd]
    c.kernels.map (·.name) = ["vadd", "scan"] ∧
      ∃ k ∈ c.kernels, ∃ d ∈ k.dispatches, c.activeDispatch? = some (k, d) ∧ k.name = "vadd" ∧
        d.count = 2 ∧ k.launchCount = 2 := by
  intro vadd scan c
  have hsince : sinceClear [.register vadd, .clear, .register vadd, .register scan,
      .register vadd] = [vadd, scan, vadd] := rfl
  obtain ⟨⟨-, hlisted⟩, hkernels, hactive⟩ := after_counts_launches
    [.register vadd, .clear, .register vadd, .register scan, .register vadd]
  rw [hsince] at hlisted hkernels hactive
  obtain ⟨k, hk, d, hd, hactive, hname, -, hcount⟩ := hactive
  refine ⟨hlisted.trans (by decide), k, hk, d, hd, hactive, hname, hcount.trans (by decide), ?_⟩
  rw [(hkernels k hk).2.2, hname]
  decide

end KernelCatalog

end GpuDebug
