import GpuDebug.Dim
import Mathlib.Algebra.Group.Nat.Defs
import Mathlib.Data.List.TakeDrop

/-!
# Records

What decoders take from the bytes at the cursor. A record that was written is read back field by
field, wherever it stands. A decoder of records of one size takes the bytes of any record, whatever
they are, and fails only where there are too few.

* `Decoder.Reads`: the value that a decoder gives of certain bytes.
* `Decoder.Sized`: a decoder of records of one size; one lemma for each kind of field.
* `Decoder.Sized.exists_decode_iff`: bytes can be decoded exactly if there are enough of them.
* `Decoder.Sized.entries`: each record of a table is read off its own bytes.
-/

namespace GpuDebug.Wire

/-- A number is less than the numbers that need another byte. -/
theorem ofLittleEndian_lt (bytes : Bytes) : ofLittleEndian bytes < 256 ^ bytes.length := by
  induction bytes with
  | nil => exact Nat.zero_lt_one
  | cons b bytes ih =>
    have hb := b.toNat_lt
    rw [ofLittleEndian, List.length_cons, Nat.pow_succ]
    omega

/-- The word at the start of some bytes, as a number. -/
theorem ofLittleEndian_take_u64_append (value : UInt64) (rest : Bytes) :
    ofLittleEndian ((u64 value ++ rest).take 8) = value.toNat := by
  rw [List.take_left' (length_u64 value), u64, ofLittleEndian_littleEndian]
  exact Nat.mod_eq_of_lt value.toNat_lt

/-- The length of a table of records of one size. -/
theorem length_flatMap_of_length {γ : Type} {encode : γ → Bytes} {width : Nat}
    (h : ∀ r, (encode r).length = width) (records : List γ) :
    (records.flatMap encode).length = records.length * width := by
  induction records with
  | nil => rw [List.flatMap_nil, List.length_nil, List.length_nil, Nat.zero_mul]
  | cons r records ih =>
    rw [List.flatMap_cons, List.length_append, h, ih, List.length_cons, Nat.succ_mul, Nat.add_comm]

namespace Decoder

variable {α β : Type} {d : Decoder α} {a : α} {b : β} {bytes front back : Bytes} {n m : Nat}

/-! ## Reading what was written -/

/-- Where the bytes stand, the decoder takes them and gives the value. -/
def Reads (d : Decoder α) (bytes : Bytes) (a : α) : Prop :=
  ∀ position rest, d.run ⟨position, bytes ++ rest⟩ = .ok a ⟨position + bytes.length, rest⟩

namespace Reads

theorem pure (a : α) : Reads (pure a) [] a := fun _ _ => rfl

theorem bind {f : α → Decoder β} (h : Reads d front a) (hf : Reads (f a) back b) :
    Reads (d >>= f) (front ++ back) b := by
  intro position rest
  rw [EStateM.run_bind, List.append_assoc, h]
  dsimp only
  rw [hf, List.length_append, Nat.add_assoc]

/-- A value that is computed from what was read. -/
theorem map {g : α → β} (h : Reads d bytes a) : Reads (do return g (← d)) bytes (g a) := by
  have := h.bind (f := fun x => Pure.pure (g x)) (pure (g a))
  rwa [List.append_nil] at this

theorem decode (h : Reads d bytes a) (rest : Bytes) : d.decode (bytes ++ rest) = .ok a := by
  rw [Decoder.decode, h]

theorem unique {a' : α} (h : Reads d bytes a) (h' : Reads d bytes a') : a = a' :=
  Except.ok.inj ((h.decode []).symm.trans (h'.decode []))

theorem take {count : Nat} (h : bytes.length = count) : Reads (Cursor.take count) bytes bytes := by
  subst h
  intro position rest
  change (if ((bytes ++ rest).take bytes.length).length = bytes.length then _ else _) = _
  rw [List.take_left, List.drop_left, if_pos rfl]

theorem skip {count : Nat} (h : bytes.length = count) : Reads (Cursor.skip count) bytes () :=
  (take h).map

theorem u32 (value : UInt32) : Reads Cursor.u32 (Wire.u32 value) value := by
  have h := (take (Wire.length_u32 value)).map (g := fun b => UInt32.ofNat (ofLittleEndian b))
  rwa [Wire.u32, ofLittleEndian_littleEndian, Nat.mod_eq_of_lt value.toNat_lt,
    UInt32.ofNat_toNat] at h

theorem u64 (value : UInt64) : Reads Cursor.u64 (Wire.u64 value) value := by
  have h := (take (Wire.length_u64 value)).map (g := fun b => UInt64.ofNat (ofLittleEndian b))
  rwa [Wire.u64, ofLittleEndian_littleEndian, Nat.mod_eq_of_lt value.toNat_lt,
    UInt64.ofNat_toNat] at h

theorem i32 (value : Int32) : Reads Cursor.i32 (Wire.i32 value) value :=
  (u32 value.toUInt32).map

theorem flag (value : Bool) : Reads Cursor.flag (Wire.flag value) value := by
  have h := (u32 (if value then 1 else 0)).map (g := (· != 0))
  cases value <;> exact h

/-- A table is read record by record. -/
theorem times {γ : Type} {encode : γ → Bytes} {value : γ → α} (records : List γ)
    (h : ∀ r ∈ records, Reads d (encode r) (value r)) :
    Reads (Cursor.times d records.length) (records.flatMap encode) (records.map value) := by
  induction records with
  | nil => exact pure []
  | cons r records ih =>
    rw [List.forall_mem_cons] at h
    rw [List.flatMap_cons]
    exact h.1.bind (ih h.2).map

theorem dim (value : Dim) : Reads Dim.decode value.encode value := by
  rw [Dim.encode, List.append_assoc]
  exact (i32 value.x).bind ((i32 value.y).bind (i32 value.z).map)

end Reads

/-! ## Reading any bytes -/

/-- The word at the start of the bytes is read as the number that they start with. -/
theorem exists_run_u64 (h : 8 ≤ bytes.length) : ∃ word : UInt64,
    word.toNat = ofLittleEndian (bytes.take 8) ∧
      Cursor.u64.run ⟨0, bytes⟩ = .ok word ⟨8, bytes.drop 8⟩ := by
  have hlength : (bytes.take 8).length = 8 := List.length_take_of_le h
  have hlt : ofLittleEndian (bytes.take 8) < 2 ^ 64 := by
    have hbound := ofLittleEndian_lt (bytes.take 8)
    rwa [hlength] at hbound
  have hread : Reads Cursor.u64 (bytes.take 8) (UInt64.ofNat (ofLittleEndian (bytes.take 8))) :=
    (Reads.take hlength).map
  have hrun := hread 0 (bytes.drop 8)
  rw [List.take_append_drop, hlength] at hrun
  exact ⟨_, UInt64.toNat_ofNat_of_lt' hlt, hrun⟩

/-- The decoder reads records of `n` bytes, of any content, and fails where there are fewer. -/
structure Sized (n : Nat) (d : Decoder α) : Prop where
  reads : ∀ bytes, bytes.length = n → ∃ a, Reads d bytes a
  short : ∀ c : Cursor, c.remaining < n → ∃ e c', d.run c = .error e c'

namespace Sized

theorem pure (a : α) : Sized 0 (pure a) where
  reads bytes h := by
    rw [List.length_eq_zero_iff.mp h]
    exact ⟨a, .pure a⟩
  short _ h := absurd h (Nat.not_lt_zero _)

/-- Where there are enough bytes, the value depends on the first ones only. -/
theorem run_of_le (h : Sized n d) {c : Cursor} (hc : n ≤ c.remaining) :
    ∃ a, Reads d (c.rest.take n) a ∧ d.run c = .ok a ⟨c.position + n, c.rest.drop n⟩ := by
  have hlength : (c.rest.take n).length = n := List.length_take_of_le hc
  obtain ⟨a, ha⟩ := h.reads _ hlength
  have hrun := ha c.position (c.rest.drop n)
  rw [List.take_append_drop, hlength] at hrun
  exact ⟨a, ha, hrun⟩

theorem bind {f : α → Decoder β} (h : Sized n d) (hf : ∀ a, Sized m (f a)) :
    Sized (n + m) (d >>= f) where
  reads bytes hlength := by
    obtain ⟨a, ha⟩ := h.reads (bytes.take n) (List.length_take_of_le (by omega))
    obtain ⟨b, hb⟩ := (hf a).reads (bytes.drop n) (by rw [List.length_drop]; omega)
    have hread := ha.bind hb
    rw [List.take_append_drop] at hread
    exact ⟨b, hread⟩
  short c hc := by
    rw [EStateM.run_bind]
    by_cases hfirst : c.remaining < n
    · obtain ⟨e, c', hrun⟩ := h.short c hfirst
      exact ⟨e, c', by rw [hrun]⟩
    · obtain ⟨a, -, hrun⟩ := h.run_of_le (Nat.le_of_not_lt hfirst)
      rw [hrun]
      refine (hf a).short _ ?_
      change (c.rest.drop n).length < m
      rw [List.length_drop]
      exact Nat.sub_lt_left_of_lt_add (Nat.le_of_not_lt hfirst) hc

/-- A value that is computed from what was read. -/
theorem map {g : α → β} (h : Sized n d) : Sized n (do return g (← d)) :=
  h.bind fun _ => pure _

theorem take (count : Nat) : Sized count (Cursor.take count) where
  reads bytes h := ⟨bytes, .take h⟩
  short c hc := by
    have hlength : (c.rest.take count).length ≠ count := by
      rw [List.length_take]
      exact Nat.ne_of_lt (Nat.lt_of_le_of_lt (Nat.min_le_right _ _) hc)
    exact ⟨c.truncated count, c, if_neg hlength⟩

theorem u32 : Sized 4 Cursor.u32 := (take 4).map

theorem u64 : Sized 8 Cursor.u64 := (take 8).map

theorem i32 : Sized 4 Cursor.i32 := u32.map

theorem flag : Sized 4 Cursor.flag := u32.map

theorem text (width : Nat) : Sized width (Cursor.text width) := (take width).map

theorem skip (count : Nat) : Sized count (Cursor.skip count) := (take count).map

theorem times (h : Sized n d) (count : Nat) : Sized (count * n) (Cursor.times d count) := by
  induction count with
  | zero =>
    rw [Nat.zero_mul]
    exact pure []
  | succ count ih =>
    rw [Nat.succ_mul, Nat.add_comm]
    exact h.bind fun first => ih.map

theorem dim : Sized 12 Dim.decode := i32.bind fun _ => i32.bind fun _ => i32.map

/-! ## Decoding -/

/-- Bytes can be decoded exactly if there are enough of them. -/
theorem exists_decode_iff (h : Sized n d) : (∃ a, d.decode bytes = .ok a) ↔ n ≤ bytes.length := by
  unfold Decoder.decode
  constructor
  · rintro ⟨a, hdecode⟩
    refine Nat.le_of_not_lt fun hshort => ?_
    obtain ⟨e, c', hrun⟩ := h.short ⟨0, bytes⟩ hshort
    rw [hrun] at hdecode
    cases hdecode
  · intro hle
    obtain ⟨a, -, hrun⟩ := h.run_of_le (c := ⟨0, bytes⟩) hle
    exact ⟨a, by rw [hrun]⟩

/-- What is read does not depend on the number of bytes that were read before. -/
theorem run_eq_ok_iff (h : Sized n d) {c : Cursor} :
    (∃ c', d.run c = .ok a c') ↔ d.decode c.rest = .ok a := by
  by_cases hle : n ≤ c.remaining
  · obtain ⟨a', hread, hrun⟩ := h.run_of_le hle
    have hdecode := hread.decode (c.rest.drop n)
    rw [List.take_append_drop] at hdecode
    rw [hrun, hdecode]
    simp
  · have hnone : ¬ ∃ a, d.decode c.rest = .ok a := h.exists_decode_iff.not.mpr hle
    obtain ⟨e, c', hrun⟩ := h.short c (Nat.lt_of_not_le hle)
    rw [hrun]
    exact iff_of_false (by simp) fun hdecode => hnone ⟨a, hdecode⟩

/-- What is decoded is read off the first bytes. -/
theorem reads_of_decode (h : Sized n d) (hdecode : d.decode bytes = .ok a) :
    Reads d (bytes.take n) a := by
  have hle : n ≤ bytes.length := h.exists_decode_iff.mp ⟨a, hdecode⟩
  obtain ⟨a', ha', hrun⟩ := h.run_of_le (c := ⟨0, bytes⟩) hle
  rw [Decoder.decode, hrun] at hdecode
  cases hdecode
  exact ha'

/-- The records of a table, one after the other. -/
theorem entries_of_reads (h : Sized n d) {count : Nat} {values : List α}
    (hlength : bytes.length = count * n) (hread : Reads (Cursor.times d count) bytes values) :
    values.length = count ∧
      ∀ i a, values[i]? = some a → Reads d ((bytes.drop (i * n)).take n) a := by
  induction count generalizing bytes values with
  | zero =>
    rw [Nat.zero_mul, List.length_eq_zero_iff] at hlength
    subst hlength
    obtain rfl : values = [] := hread.unique (.pure [])
    exact ⟨rfl, nofun⟩
  | succ count ih =>
    rw [Nat.succ_mul] at hlength
    obtain ⟨first, hfirst⟩ := h.reads (bytes.take n) (List.length_take_of_le (by omega))
    have hrest : (bytes.drop n).length = count * n := by
      rw [List.length_drop]
      omega
    obtain ⟨others, hothers⟩ := (h.times count).reads (bytes.drop n) hrest
    have hwhole : Reads (Cursor.times d (count + 1)) (bytes.take n ++ bytes.drop n)
        (first :: others) := hfirst.bind hothers.map
    rw [List.take_append_drop] at hwhole
    obtain rfl : values = first :: others := hread.unique hwhole
    obtain ⟨hcount, hentries⟩ := ih hrest hothers
    refine ⟨congrArg Nat.succ hcount, fun i a hi => ?_⟩
    cases i with
    | zero =>
      cases hi
      rwa [Nat.zero_mul, List.drop_zero]
    | succ i =>
      have hentry := hentries i a hi
      rwa [List.drop_drop, Nat.add_comm, ← Nat.succ_mul] at hentry

/-- **A table of records.** It has as many records as were asked for, and each of them is what is
decoded from its own bytes alone. -/
theorem entries (h : Sized n d) {count : Nat} {values : List α}
    (hdecode : (Cursor.times d count).decode bytes = .ok values) :
    values.length = count ∧
      ∀ i a, values[i]? = some a → d.decode ((bytes.drop (i * n)).take n) = .ok a := by
  have hle : count * n ≤ bytes.length := (h.times count).exists_decode_iff.mp ⟨values, hdecode⟩
  obtain ⟨hcount, hentries⟩ :=
    h.entries_of_reads (List.length_take_of_le hle) ((h.times count).reads_of_decode hdecode)
  refine ⟨hcount, fun i a hi => ?_⟩
  -- The bytes of the record lie within those of the table.
  have hlt : i < count := hcount ▸ (List.getElem?_eq_some_iff.mp hi).1
  have hfits : n ≤ count * n - i * n := by
    rw [← Nat.sub_mul]
    exact Nat.le_mul_of_pos_left n (Nat.sub_pos_of_lt hlt)
  have hentry := (hentries i a hi).decode []
  rwa [List.append_nil, List.drop_take, List.take_take, Nat.min_eq_left hfits] at hentry

end Sized

end Decoder

end GpuDebug.Wire
