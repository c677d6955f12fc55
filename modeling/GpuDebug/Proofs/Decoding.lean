import GpuDebug.Proofs.Operation
import GpuDebug.Proofs.Records

/-!
# What can go wrong with a record

A decoder fails if bytes are missing, or if a table declares more entries than there are.

* `Decoder.Needs n`: the decoder does not fail where `n` bytes are left. So a notification of the
  right length can always be read (`Inbox.outcome_total`).
* `Decoder.Faults P`: every failure satisfies `P`. The failures of the tables in shared memory are
  told from those of commands by their texts (`Error.IsOfRecord`).
-/

namespace GpuDebug

namespace Wire.Decoder

variable {α β : Type} {n m : Nat} {P : Error → Prop}

/-! ## Decoders that do not fail -/

/-- Where `n` bytes are left the decoder does not fail, and takes at most these. -/
def Needs (n : Nat) (d : Decoder α) : Prop :=
  ∀ c : Cursor, n ≤ c.remaining → ∃ a c', d.run c = .ok a c' ∧ c.remaining ≤ c'.remaining + n

namespace Needs

variable {d : Decoder α}

theorem pure (a : α) : Needs 0 (pure a) := fun c _ => ⟨a, c, rfl, Nat.le_refl _⟩

theorem mono (h : Needs n d) (hle : n ≤ m) : Needs m d := by
  intro c hc
  obtain ⟨a, c', hrun, hrest⟩ := h c (Nat.le_trans hle hc)
  exact ⟨a, c', hrun, Nat.le_trans hrest (Nat.add_le_add_left hle _)⟩

theorem bind {f : α → Decoder β} (h : Needs n d) (hf : ∀ a, Needs m (f a)) :
    Needs (n + m) (d >>= f) := by
  intro c hc
  obtain ⟨a, c₁, hfirst, hleft⟩ := h c (by omega)
  obtain ⟨b, c₂, hsecond, hrest⟩ := hf a c₁ (by omega)
  refine ⟨b, c₂, ?_, by omega⟩
  rw [EStateM.run_bind, hfirst]
  exact hsecond

/-- A value that is computed from what was read. -/
theorem map {g : α → β} (h : Needs n d) : Needs n (do return g (← d)) :=
  h.bind fun _ => pure _

end Needs

namespace Sized

variable {d : Decoder α}

/-- A record of one size needs its bytes, and no more. -/
theorem needs (h : Sized n d) (hle : n ≤ m) : Needs m d := by
  refine Needs.mono (fun c hc => ?_) hle
  obtain ⟨a, -, hrun⟩ := h.run_of_le hc
  refine ⟨a, _, hrun, ?_⟩
  change c.rest.length ≤ (c.rest.drop n).length + n
  rw [List.length_drop]
  omega

theorem device : Sized Device.size Device.decode :=
  (text Device.nameWidth).bind fun _ => u64.bind fun _ => u32.bind fun _ => u32.bind fun _ =>
    u32.bind fun _ => u32.bind fun _ => u32.bind fun _ => u32.bind fun _ => flag.bind fun _ =>
      (skip 4).map

/-- Every payload fits a packet. -/
theorem needs_payload (tag : UInt32) :
    Needs (8 + Device.most * Device.size) (Notification.decodePayload tag) := by
  unfold Notification.decodePayload
  split
  · exact ((text _).bind fun _ => dim.bind fun _ => dim.map).needs (by decide)
  · exact (u32.bind fun _ => i32.map).needs (by decide)
  · exact i32.map.needs (by decide)
  · exact ((i32.times _).bind fun _ => (i32.times _).bind fun _ => u32.map).needs (by decide)
  · exact (pure _).needs (Nat.zero_le _)
  · exact flag.map.needs (by decide)
  · exact (dim.bind fun _ => dim.map).needs (by decide)
  · exact i32.map.needs (by decide)
  · exact flag.map.needs (by decide)
  · exact u32.map.needs (by decide)
  · have kept : ∀ count, Needs (Device.most * Device.size)
        (Cursor.times Device.decode (min count Device.most)) := fun count =>
      (device.times _).needs (Nat.mul_le_mul_right _ (Nat.min_le_right _ _))
    exact ((u32.needs (Nat.le_refl 4)).bind fun count =>
      ((skip 4).needs (Nat.le_refl 4)).bind fun _ => (kept count.toNat).map).mono (by decide)
  · exact (pure _).needs (Nat.zero_le _)

end Sized

/-! ## How decoders fail -/

/-- Every failure of the decoder satisfies `P`. -/
def Faults (P : Error → Prop) (d : Decoder α) : Prop :=
  ∀ c e c', d.run c = .error e c' → P e

namespace Faults

variable {d : Decoder α}

theorem pure (a : α) : Faults P (pure a) := nofun

theorem bind {f : α → Decoder β} (h : Faults P d) (hf : ∀ a, Faults P (f a)) :
    Faults P (d >>= f) := by
  intro c e c' hrun
  rw [EStateM.run_bind] at hrun
  cases hfirst : d.run c with
  | ok a c₁ =>
    rw [hfirst] at hrun
    exact hf a c₁ e c' hrun
  | error e₁ c₁ =>
    rw [hfirst] at hrun
    cases hrun
    exact h c e c' hfirst

theorem map {g : α → β} (h : Faults P d) : Faults P (do return g (← d)) :=
  h.bind fun _ => pure _

theorem times (h : Faults P d) (count : Nat) : Faults P (Cursor.times d count) := by
  induction count with
  | zero => exact pure []
  | succ count ih => exact h.bind fun _ => ih.map

theorem decode (h : Faults P d) {bytes : Bytes} {e : Error} (hd : d.decode bytes = .error e) :
    P e := by
  unfold Decoder.decode at hd
  cases hrun : d.run ⟨0, bytes⟩ with
  | ok a c =>
    rw [hrun] at hd
    cases hd
  | error e' c =>
    rw [hrun] at hd
    cases hd
    exact h _ _ _ hrun

end Faults

end Wire.Decoder

open Wire (Cursor Decoder)

/-- A packet of the right length can be read, whatever its tag and its content are. -/
theorem Notification.exists_decode_iff (bytes : Bytes) :
    (∃ n, decode bytes = .ok n) ↔ bytes.length = size := by
  unfold decode
  constructor
  · rintro ⟨n, h⟩
    by_cases hlength : bytes.length = size
    · exact hlength
    · rw [if_neg hlength] at h
      cases h
  · intro hlength
    have hneeds : Decoder.Needs size (do decodePayload (← Cursor.u32)) :=
      (Decoder.Sized.u32.needs (Nat.le_refl 4)).bind fun tag => Decoder.Sized.needs_payload tag
    obtain ⟨n, c, hrun, -⟩ := hneeds ⟨0, bytes⟩ (Nat.le_of_eq hlength.symm)
    refine ⟨n, ?_⟩
    rw [if_pos hlength, Decoder.decode, hrun]

/-- A read that brings anything brings a notification or is too short. -/
theorem Inbox.outcome_total (bytes : Bytes) : ∃ p, Inbox.outcome bytes = .ok p := by
  unfold Inbox.outcome
  split
  · exact ⟨_, rfl⟩
  · split
    · next hlength =>
      obtain ⟨n, hdecode⟩ := (Notification.exists_decode_iff bytes).mpr hlength
      exact ⟨.packet n, by rw [hdecode]; rfl⟩
    · exact ⟨_, rfl⟩

/-- The failure to read a record. Its text starts with a small letter, that of a command which is
not valid starts with the name of the kind of the command. -/
def Error.IsOfRecord (e : Error) : Prop :=
  ∃ text initial, e = .invalidPacket text ∧ text.toList.head? = some initial ∧
    initial.isLower = true

theorem Command.not_isOfRecord_incomplete (c : Command) : ¬ c.incomplete.IsOfRecord := by
  rintro ⟨text, initial, heq, hhead, hlower⟩
  cases heq
  have hname : ∃ first, c.tag.name.toList.head? = some first ∧ first.isLower = false := by
    cases c.tag <;> exact ⟨_, rfl, rfl⟩
  obtain ⟨first, hfirst, hupper⟩ := hname
  have htext : some first = some initial := by
    rw [← hhead]
    simp [toString, String.toList_append, List.head?_append, hfirst]
  cases htext
  rw [hupper] at hlower
  cases hlower

namespace Wire.Decoder.Faults

theorem take (count : Nat) : Faults Error.IsOfRecord (Cursor.take count) := by
  intro c e c' hrun
  change (if (c.rest.take count).length = count then _ else _) = _ at hrun
  split at hrun
  · cases hrun
  · cases hrun
    exact ⟨_, 'r', rfl, by simp [toString], rfl⟩

theorem u32 : Faults Error.IsOfRecord Cursor.u32 := (take 4).map

theorem u64 : Faults Error.IsOfRecord Cursor.u64 := (take 8).map

theorem i32 : Faults Error.IsOfRecord Cursor.i32 := u32.map

theorem flag : Faults Error.IsOfRecord Cursor.flag := u32.map

theorem skip (count : Nat) : Faults Error.IsOfRecord (Cursor.skip count) := (take count).map

theorem dim : Faults Error.IsOfRecord Dim.decode := i32.bind fun _ => i32.bind fun _ => i32.map

theorem wave : Faults Error.IsOfRecord Wave.decode :=
  dim.bind fun _ => (dim.times _).bind fun _ => u64.bind fun _ => u64.bind fun _ => u64.map

theorem segment : Faults Error.IsOfRecord Segment.decode :=
  u64.bind fun _ => u64.bind fun _ => u32.bind fun _ => (skip 4).bind fun _ => u64.bind fun _ =>
    u64.bind fun _ => u64.bind fun _ => u64.bind fun _ => u64.bind fun _ => u64.bind fun _ =>
      flag.bind fun _ => (skip 4).map

theorem loadMap : Faults Error.IsOfRecord Segment.decodeMap := by
  refine u64.bind fun count => .bind (fun _ _ _ => nofun) fun c => ?_
  dsimp only
  split
  · refine .bind (fun _ e _ hrun => ?_) fun _ => segment.times _
    cases hrun
    exact ⟨_, 'l', rfl, by simp [toString], rfl⟩
  · exact segment.times _

end Wire.Decoder.Faults

/-- A wave table that cannot be read. -/
theorem Wave.isOfRecord_of_decodeTable {raw : Bytes} {count : Nat} {e : Error}
    (h : decodeTable raw count = .error e) : e.IsOfRecord :=
  (Decoder.Faults.wave.times count).decode h

/-- A load map that cannot be read. -/
theorem SegmentTable.isOfRecord_of_ofRegion {region : Option Bytes} {e : Error}
    (h : ofRegion region = .error e) : e.IsOfRecord := by
  cases region with
  | none => cases h
  | some bytes =>
    change ofSegments <$> Decoder.decode Segment.decodeMap bytes = .error e at h
    cases hdecode : Decoder.decode Segment.decodeMap bytes with
    | ok segments =>
      rw [hdecode] at h
      cases h
    | error e' =>
      rw [hdecode] at h
      cases h
      exact Decoder.Faults.loadMap.decode hdecode

end GpuDebug
