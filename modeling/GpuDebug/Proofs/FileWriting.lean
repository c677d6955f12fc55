import GpuDebug.Files

/-!
# Writing a file

A file can be written, and created where there is nothing. All other files stay where they are, with
the bytes that they hold.

* `Files.find_of_admitted`: where a path leads, if it is one that can lead somewhere.
* `Files.walk_put`, `Files.find_put`: what is put at another place is not on the way to a place.
* `Files.read_write`, `Files.read_touch`: the main results.
-/

namespace GpuDebug.Files

variable {fs fs' : Files} {path other : String} {place here elsewhere : Place} {node : Node}
  {found : Option Node} {bytes content : Bytes}

/-! ## Where a path leads -/

/-- A path that can lead somewhere. -/
structure Admitted (path : String) : Prop where
  noZero : path.toList.contains '\x00' = false
  relative : (path.isEmpty || path.toList.head? = some '/') = false
  short : ((Path.components path).any fun name => longestName < name.utf8ByteSize) = false

/-- What a path leads to, behind the tests of the path. -/
def reached (fs : Files) (path : String) (place : Place) : Except FileFault (Place × Option Node) :=
  match fs.node? place with
  | some (.file bytes readOnly) =>
    if namesDirectory path then .error .notDirectory else .ok (place, some (.file bytes readOnly))
  | found => .ok (place, found)

theorem find_of_admitted (h : Admitted path) :
    fs.find path = fs.walk [] (Path.components path) >>= fs.reached path := by
  unfold find
  rw [if_neg (by simp only [h.noZero]; decide), if_neg (by simp only [h.relative]; decide)]
  dsimp only
  rw [if_neg (by simp only [h.short]; decide)]
  rfl

theorem Admitted.of_find {a : Place × Option Node} (h : fs.find path = .ok a) : Admitted path := by
  unfold find at h
  by_cases hzero : path.toList.contains '\x00' = true
  · rw [if_pos hzero] at h
    cases h
  by_cases hrelative : (path.isEmpty || path.toList.head? = some '/') = true
  · rw [if_neg hzero, if_pos hrelative] at h
    cases h
  by_cases hshort : ((Path.components path).any fun name => longestName < name.utf8ByteSize) = true
  · rw [if_neg hzero, if_neg hrelative] at h
    dsimp only at h
    rw [if_pos hshort] at h
    cases h
  exact ⟨Bool.eq_false_iff.mpr hzero, Bool.eq_false_iff.mpr hrelative, Bool.eq_false_iff.mpr hshort⟩

theorem node?_eq_of_reached {a : Place × Option Node} (h : fs.reached path here = .ok a) :
    a = (here, fs.node? here) := by
  unfold reached at h
  split at h
  · next bytes readOnly hnode =>
    split at h
    · cases h
    · cases h
      rw [hnode]
  · cases h
    rfl

theorem exists_walk_of_find (h : fs.find path = .ok (place, found)) :
    fs.walk [] (Path.components path) = .ok place ∧ fs.reached path place = .ok (place, found) ∧
      found = fs.node? place := by
  rw [find_of_admitted (.of_find h)] at h
  cases hwalk : fs.walk [] (Path.components path) with
  | error fault =>
    rw [hwalk] at h
    cases h
  | ok here =>
    rw [hwalk] at h
    cases node?_eq_of_reached h
    exact ⟨rfl, h, rfl⟩

/-- A file that can be read is where its path leads. -/
theorem find_of_read (h : fs.read path = .ok bytes) :
    ∃ place readOnly, fs.find path = .ok (place, some (.file bytes readOnly)) := by
  unfold read at h
  cases hfind : fs.find path with
  | error fault =>
    rw [hfind] at h
    cases h
  | ok result =>
    rw [hfind] at h
    obtain ⟨place, _ | ⟨bytes', readOnly⟩ | _⟩ := result
    · cases h
    · cases h
      exact ⟨place, readOnly, rfl⟩
    · cases h

/-! ## What is put at another place -/

theorem lookup_filter_ne (h : place ≠ elsewhere) (nodes : List (Place × Node)) :
    (nodes.filter (·.1 != elsewhere)).lookup place = nodes.lookup place := by
  induction nodes with
  | nil => rfl
  | cons entry nodes ih =>
    by_cases hentry : entry.1 = elsewhere
    · rw [List.filter_cons_of_neg (by simp [hentry]), ih, List.lookup_cons,
        beq_false_of_ne (hentry ▸ h)]
    · rw [List.filter_cons_of_pos (by simpa using hentry), List.lookup_cons, List.lookup_cons, ih]

section Put

variable (hne : place ≠ elsewhere)
include hne

theorem node?_put : (fs.put elsewhere node).node? place = fs.node? place := by
  rw [node?, node?, put, List.lookup_cons, beq_false_of_ne hne, lookup_filter_ne hne]

variable (h : fs.node? elsewhere ≠ some .directory)
include h

/-- A way passes directories only, so it does not pass the other place. -/
theorem walk_put {names : List String} (hwalk : fs.walk here names = .ok place) :
    (fs.put elsewhere node).walk here names = .ok place := by
  induction names generalizing here with
  | nil => exact hwalk
  | cons name rest ih =>
    rw [walk] at hwalk ⊢
    by_cases hup : name = ".."
    · rw [if_pos hup] at hwalk ⊢
      exact ih hwalk
    · rw [if_neg hup] at hwalk ⊢
      dsimp only at hwalk ⊢
      by_cases hnext : here ++ [name] = elsewhere
      · -- Nothing leads on from the other place, and the way does not end there.
        exfalso
        rw [hnext] at hwalk
        split at hwalk
        · next hdirectory => exact h hdirectory
        · split at hwalk
          · exact hne (Except.ok.inj hwalk).symm
          · cases hwalk
        · split at hwalk
          · exact hne (Except.ok.inj hwalk).symm
          · cases hwalk
      · rw [node?_put hnext]
        cases hnode : fs.node? (here ++ [name]) with
        | none =>
          rw [hnode] at hwalk
          exact hwalk
        | some passed =>
          rw [hnode] at hwalk
          cases passed with
          | directory => exact ih hwalk
          | file bytes readOnly => exact hwalk

theorem find_put (hfind : fs.find path = .ok (place, found)) :
    (fs.put elsewhere node).find path = .ok (place, found) := by
  obtain ⟨hwalk, hreached, -⟩ := exists_walk_of_find hfind
  rw [find_of_admitted (.of_find hfind), walk_put hne h hwalk, ← hreached]
  change reached _ _ _ = _
  rw [reached, reached, node?_put hne]

theorem read_put (hfind : fs.find path = .ok (place, found)) :
    (fs.put elsewhere node).read path = fs.read path := by
  rw [read, read, find_put hne h hfind, hfind]

end Put

/-! ## The bytes of the other files -/

/-- A write puts a file where its path leads. -/
theorem exists_put_of_write (h : fs.write path content = .ok fs') :
    ∃ place found readOnly, fs.find path = .ok (place, found) ∧ found ≠ some .directory ∧
      fs' = fs.put place (.file content readOnly) := by
  unfold write at h
  cases hfind : fs.find path with
  | error fault =>
    rw [hfind] at h
    cases h
  | ok result =>
    rw [hfind] at h
    obtain ⟨place, _ | ⟨previous, readOnly⟩ | _⟩ := result
    · dsimp only [bind, Except.bind] at h
      split at h
      · cases h
      · cases h
        exact ⟨place, none, false, rfl, nofun, rfl⟩
    · cases h
      exact ⟨place, _, readOnly, rfl, nofun, rfl⟩
    · cases h

/-- **Writing a file** does not change the bytes of any other file. -/
theorem read_write (hwrite : fs.write other content = .ok fs')
    (hother : fs.find other ≠ fs.find path) (h : fs.read path = .ok bytes) :
    fs'.read path = .ok bytes := by
  obtain ⟨place, readOnly, hfind⟩ := find_of_read h
  obtain ⟨elsewhere, found, readOnly', hfind', hfile, rfl⟩ := exists_put_of_write hwrite
  obtain ⟨-, -, hplace⟩ := exists_walk_of_find hfind
  obtain ⟨-, -, helsewhere⟩ := exists_walk_of_find hfind'
  have hne : place ≠ elsewhere := by
    rintro rfl
    rw [hfind, hfind', hplace, helsewhere] at hother
    exact hother rfl
  exact (read_put hne (helsewhere ▸ hfile) hfind).trans h

/-- **Creating a file** does not change the bytes of any file that is there. -/
theorem read_touch (h : fs.read path = .ok bytes) (other : String) :
    (fs.touch other).read path = .ok bytes := by
  unfold touch
  split
  · next place hnothing =>
    cases hwrite : fs.write other [] with
    | error fault => exact h
    | ok fs' =>
      obtain ⟨place', readOnly, hfind⟩ := find_of_read h
      refine read_write hwrite ?_ h
      rw [hnothing, hfind]
      nofun
  · exact h

end GpuDebug.Files
