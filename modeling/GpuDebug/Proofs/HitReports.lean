import GpuDebug.Packet.Capture
import GpuDebug.Proofs.Decoding

/-!
# Reports of hits

A packet that reports hits is a sequence of words: a tag, the numbers of the breakpoints, the counts
of their hits, and the number of active waves.

* `Wire.word`: a word of a packet, by its index.
* `Notification.tag_of_decode`: the first word of a packet is the tag of what is read.
* `Notification.report`: what the words of a report mean; `Notification.report_iff` says when it is
  read.
* `Notification.summary_report`: the hits that are shown.
-/

namespace GpuDebug

open Wire (Cursor Decoder)

/-! ## Words of a packet -/

namespace Wire

/-- The word with an index, of four bytes each. -/
def word (bytes : Bytes) (index : Nat) : UInt32 :=
  UInt32.ofNat (ofLittleEndian ((bytes.drop (index * 4)).take 4))

/-- Some bytes are the blocks that they are cut into. -/
theorem take_eq_flatMap_blocks (bytes : Bytes) (width count : Nat) :
    bytes.take (count * width) =
      (List.range count).flatMap fun i => (bytes.drop (i * width)).take width := by
  induction count with
  | zero => rw [Nat.zero_mul, List.take_zero, List.range_zero, List.flatMap_nil]
  | succ count ih =>
    rw [Nat.succ_mul, List.take_add, ih, List.range_succ, List.flatMap_append, List.flatMap_cons,
      List.flatMap_nil, List.append_nil]

namespace Decoder

variable {α β : Type} {bytes : Bytes} {index count : Nat}

theorem Reads.word (h : (index + 1) * 4 ≤ bytes.length) :
    Reads Cursor.u32 ((bytes.drop (index * 4)).take 4) (word bytes index) := by
  refine (take ?_).map
  rw [List.length_take, List.length_drop]
  omega

/-- A table of numbers is read word by word. -/
theorem Reads.words (h : (index + count) * 4 ≤ bytes.length) :
    Reads (Cursor.times Cursor.i32 count) ((bytes.drop (index * 4)).take (count * 4))
      ((List.range count).map fun k => (Wire.word bytes (index + k)).toInt32) := by
  have hword : ∀ k ∈ List.range count, Reads Cursor.i32 ((bytes.drop ((index + k) * 4)).take 4)
      (Wire.word bytes (index + k)).toInt32 := by
    intro k hk
    have hlt : k < count := List.mem_range.mp hk
    exact (word (by omega)).map
  have hwords := times (List.range count) hword
  rw [List.length_range] at hwords
  rw [take_eq_flatMap_blocks]
  simpa only [List.drop_drop, ← Nat.add_mul] using hwords

/-! ## Values that are read -/

/-- Whatever the decoder gives satisfies `P`. -/
def Gives (P : α → Prop) (d : Decoder α) : Prop :=
  ∀ c a c', d.run c = .ok a c' → P a

namespace Gives

variable {P : α → Prop} {d : Decoder α} {a : α}

theorem pure (h : P a) : Gives P (pure a) := by
  rintro c _ _ ⟨⟩
  exact h

/-- Only the last step counts. -/
theorem bind {d : Decoder β} {f : β → Decoder α} (hf : ∀ b, Gives P (f b)) :
    Gives P (d >>= f) := by
  intro c a c' hrun
  rw [EStateM.run_bind] at hrun
  cases hfirst : d.run c with
  | ok b c₁ =>
    rw [hfirst] at hrun
    exact hf b c₁ a c' hrun
  | error e c₁ =>
    rw [hfirst] at hrun
    cases hrun

theorem map {d : Decoder β} {g : β → α} (h : ∀ b, P (g b)) : Gives P (do return g (← d)) :=
  bind fun b => pure (h b)

end Gives

end Decoder

end Wire

namespace Notification

variable {packet : Bytes} {n : Notification}

/-! ## Tags -/

/-- A payload is read as a notification with the tag before it. -/
theorem gives_decodePayload (tag : UInt32) :
    Decoder.Gives (fun n : Notification => n.tag = tag) (decodePayload tag) := by
  have known : ∀ t : UInt32, tag.toNat = t.toNat → t = tag := fun _ h =>
    (UInt32.toNat_inj.mp h).symm
  unfold decodePayload
  split
  · next h => exact .bind fun _ => .bind fun _ => .map fun _ => known 1 h
  · next h => exact .bind fun _ => .map fun _ => known 2 h
  · next h => exact .map fun _ => known 3 h
  · next h => exact .bind fun _ => .bind fun _ => .map fun _ => known 4 h
  · next h => exact .pure (known 5 h)
  · next h => exact .map fun _ => known 6 h
  · next h => exact .bind fun _ => .map fun _ => known 7 h
  · next h => exact .map fun _ => known 8 h
  · next h => exact .map fun _ => known 9 h
  · next h => exact .map fun _ => known 10 h
  · next h => exact .bind fun _ => .bind fun _ => .map fun _ => known 11 h
  · exact .pure rfl

/-- The tag is read first. -/
theorem run_tag (h : packet.length = size) :
    Cursor.u32.run ⟨0, packet⟩ = .ok (Wire.word packet 0) ⟨4, packet.drop 4⟩ := by
  have hle : 4 ≤ packet.length := h ▸ (by decide : 4 ≤ size)
  have hread : Decoder.Reads Cursor.u32 ((packet.drop (0 * 4)).take 4) (Wire.word packet 0) :=
    .word hle
  have hrun := hread 0 (packet.drop 4)
  rwa [Nat.zero_mul, List.drop_zero, List.take_append_drop, List.length_take_of_le hle] at hrun

/-- **The tag of what is read** is the first word of the packet. -/
theorem tag_of_decode (h : decode packet = .ok n) : n.tag = Wire.word packet 0 := by
  have hlength : packet.length = size := (exists_decode_iff packet).mp ⟨n, h⟩
  rw [decode, if_pos hlength, Decoder.decode, EStateM.run_bind, run_tag hlength] at h
  dsimp only at h
  split at h
  · next a c hrun =>
    cases h
    exact gives_decodePayload _ _ _ _ hrun
  · cases h

/-- The payload stands behind the tag. -/
theorem decode_of_reads {body rest : Bytes} (hlength : packet.length = size)
    (hpacket : packet.drop 4 = body ++ rest)
    (hread : Decoder.Reads (decodePayload (Wire.word packet 0)) body n) :
    decode packet = .ok n := by
  rw [decode, if_pos hlength, Decoder.decode, EStateM.run_bind, run_tag hlength, hpacket]
  dsimp only
  rw [hread]

/-! ## Hits -/

/-- The number of the breakpoint in a slot of a report. -/
def slotNumber (packet : Bytes) (slot : Nat) : Int32 :=
  (Wire.word packet (1 + slot)).toInt32

/-- The count of hits in a slot. The counts stand behind the numbers. -/
def slotHits (packet : Bytes) (slot : Nat) : Int32 :=
  (Wire.word packet (1 + hitSlots + slot)).toInt32

/-- The number of waves behind the tables. -/
def activeWaves (packet : Bytes) : UInt32 :=
  Wire.word packet (1 + 2 * hitSlots)

/-- What is read of a packet that reports hits. -/
def report (packet : Bytes) : Notification :=
  breakpointHit ((List.range hitSlots).map (slotNumber packet))
    ((List.range hitSlots).map (slotHits packet)) (activeWaves packet)

/-- Behind the tag stand the numbers, from word 1 on, the counts, from word 33 on, and one word
more. -/
theorem reads_report (h : packet.length = size) :
    Decoder.Reads (decodePayload 4)
      ((packet.drop (1 * 4)).take (hitSlots * 4) ++
        ((packet.drop (33 * 4)).take (hitSlots * 4) ++ (packet.drop (65 * 4)).take 4))
      (report packet) := by
  have hle : 66 * 4 ≤ packet.length := h ▸ (by decide : 66 * 4 ≤ size)
  have hnumbers : Decoder.Reads (Cursor.times Cursor.i32 hitSlots)
      ((packet.drop (1 * 4)).take (hitSlots * 4))
      ((List.range hitSlots).map (slotNumber packet)) :=
    .words (Nat.le_trans (by decide) hle)
  have hhits : Decoder.Reads (Cursor.times Cursor.i32 hitSlots)
      ((packet.drop (33 * 4)).take (hitSlots * 4))
      ((List.range hitSlots).map (slotHits packet)) :=
    .words (Nat.le_trans (by decide) hle)
  have hwaves : Decoder.Reads Cursor.u32 ((packet.drop (65 * 4)).take 4) (activeWaves packet) :=
    .word hle
  exact hnumbers.bind (hhits.bind hwaves.map)

theorem decode_report (hlength : packet.length = size) (htag : Wire.word packet 0 = 4) :
    decode packet = .ok (report packet) := by
  have hdrop : ∀ first width next, first + width = next →
      (packet.drop first).take width ++ packet.drop next = packet.drop first := by
    rintro first width _ rfl
    rw [← List.drop_drop, List.take_append_drop]
  have hbody : packet.drop 4 = (packet.drop (1 * 4)).take (hitSlots * 4) ++
      ((packet.drop (33 * 4)).take (hitSlots * 4) ++ (packet.drop (65 * 4)).take 4) ++
        packet.drop (66 * 4) := by
    rw [List.append_assoc, List.append_assoc, hdrop (65 * 4) 4 (66 * 4) rfl,
      hdrop (33 * 4) (hitSlots * 4) (65 * 4) rfl, hdrop (1 * 4) (hitSlots * 4) (33 * 4) rfl]
  exact decode_of_reads hlength hbody (htag ▸ reads_report hlength)

/-- **The packets that report hits**, and the report that is read. -/
theorem report_iff (h : decode packet = .ok n) :
    ((∃ numbers hits waves, n = breakpointHit numbers hits waves) ↔ Wire.word packet 0 = 4) ∧
      (Wire.word packet 0 = 4 → n = report packet) := by
  have hlength : packet.length = size := (exists_decode_iff packet).mp ⟨n, h⟩
  have hreport : Wire.word packet 0 = 4 → n = report packet := fun htag =>
    Except.ok.inj (h.symm.trans (decode_report hlength htag))
  refine ⟨⟨?_, fun htag => ⟨_, _, _, hreport htag⟩⟩, hreport⟩
  rintro ⟨numbers, hits, waves, rfl⟩
  exact (tag_of_decode h).symm

/-- **The hits that are shown** are those of the slots that are used, in their order. -/
theorem summary_report (packet : Bytes) :
    (report packet).summary =
      "BreakpointHit " ++ Quoted.list (((List.range hitSlots).filter
        fun slot => 0 ≤ slotNumber packet slot).map
          fun slot => s!"{slotNumber packet slot}x{slotHits packet slot}") ++
        s!" active_waves={activeWaves packet}" := by
  rw [report, summary, hitTexts, List.zip_map', List.filter_map, List.map_map]
  rfl

end Notification

end GpuDebug
