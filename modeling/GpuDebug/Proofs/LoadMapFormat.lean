import GpuDebug.Proofs.Records
import GpuDebug.Segment
import Mathlib.Algebra.Group.Nat.Defs

/-!
# The format of load maps

A load map is a count and that many segments of one size. It lies at the start of a region of shared
memory, so anything may follow it. The count comes from another program, and is checked against the
bytes that are there.

* `Segment.declared`: the count that bytes start with.
* `Segment.decode_decodeMap_iff`: what is decoded, by the count and the table behind it.
* `Segment.loadMap_format`: the main result.
-/

namespace GpuDebug

open Wire (Cursor Decoder)

namespace Segment

/-- The number of segments that a load map declares: its first eight bytes. -/
def declared (bytes : Bytes) : Nat :=
  Wire.ofLittleEndian (bytes.take 8)

theorem sized_decode : Decoder.Sized recordSize decode :=
  .bind .u64 fun _ => .bind .u64 fun _ => .bind .u32 fun _ => .bind (.skip 4) fun _ =>
    .bind .u64 fun _ => .bind .u64 fun _ => .bind .u64 fun _ => .bind .u64 fun _ =>
    .bind .u64 fun _ => .bind .u64 fun _ => .bind .flag fun _ => .map (.skip 4)

/-- A segment comes back as it was. -/
theorem reads_encode (s : Segment) : Decoder.Reads decode s.encode s := by
  simp only [encode, List.append_assoc]
  exact (Decoder.Reads.u64 s.device).bind <| (Decoder.Reads.u64 s.executable).bind <|
    (Decoder.Reads.u32 s.storageType).bind <| (Decoder.Reads.skip (Wire.length_gap 4)).bind <|
    (Decoder.Reads.u64 s.storageBase).bind <| (Decoder.Reads.u64 s.storageSize).bind <|
    (Decoder.Reads.u64 s.storageOffset).bind <| (Decoder.Reads.u64 s.base).bind <|
    (Decoder.Reads.u64 s.size).bind <| (Decoder.Reads.u64 s.codeBase).bind <|
    (Decoder.Reads.flag s.isExecuted).bind (Decoder.Reads.skip (Wire.length_gap 4)).map

theorem declared_u64_append (count : UInt64) (rest : Bytes) :
    declared (Wire.u64 count ++ rest) = count.toNat :=
  Wire.ofLittleEndian_take_u64_append count rest

/-- The count is a word of 64 bits, so every shorter list can be declared. -/
theorem declared_encodeMap {segments : List Segment} (h : segments.length < 2 ^ 64)
    (rest : Bytes) : declared (encodeMap segments ++ rest) = segments.length := by
  rw [encodeMap, List.append_assoc, declared_u64_append, UInt64.toNat_ofNat_of_lt' h]

variable {bytes : Bytes} {segments : List Segment}

theorem declared_lt (h : 8 ≤ bytes.length) : declared bytes < 2 ^ 64 := by
  obtain ⟨word, hword, -⟩ := Decoder.exists_run_u64 h
  rw [declared, ← hword]
  exact word.toNat_lt

/-- Tables that are refused do not fit, although their sizes are cut to a word. -/
theorem not_fits_of_tableSize_gt {count size : Nat} (h : tableSize count > size) :
    ¬ count * recordSize ≤ size :=
  Nat.not_le_of_lt (Nat.lt_of_lt_of_le h (Nat.min_le_left _ _))

/-- The count is checked first; then the table is read behind it. -/
theorem run_decodeMap (h : 8 ≤ bytes.length) :
    let count := declared bytes
    let table : Cursor := ⟨8, bytes.drop 8⟩
    decodeMap.run ⟨0, bytes⟩ =
      if tableSize count > table.remaining then
        .error (.invalidPacket
          s!"loadmap declares {count} segments but holds {table.remaining} bytes") table
      else (Cursor.times decode count).run table := by
  intro count table
  obtain ⟨word, hword, hrun⟩ := Decoder.exists_run_u64 h
  unfold decodeMap
  rw [EStateM.run_bind, hrun]
  dsimp only
  rw [show word.toNat = count from hword, EStateM.run_bind]
  change (if tableSize count > table.remaining then _ else _ : Decoder (List Segment)).run _ = _
  split <;> rfl

/-- A load map is decoded as the table behind its count: the check refuses only tables that cannot
be read. -/
theorem decode_decodeMap_iff : decodeMap.decode bytes = .ok segments ↔
    8 ≤ bytes.length ∧
      (Cursor.times decode (declared bytes)).decode (bytes.drop 8) = .ok segments := by
  have htable := sized_decode.times (declared bytes)
  by_cases hlength : 8 ≤ bytes.length
  · rw [Decoder.decode, run_decodeMap hlength, and_iff_right hlength]
    by_cases hrefused : tableSize (declared bytes) > Cursor.remaining ⟨8, bytes.drop 8⟩
    · have hnone := htable.exists_decode_iff.not.mpr (not_fits_of_tableSize_gt hrefused)
      rw [if_pos hrefused]
      exact iff_of_false (by simp) fun h => hnone ⟨segments, h⟩
    · rw [if_neg hrefused, ← htable.run_eq_ok_iff (c := ⟨8, bytes.drop 8⟩)]
      cases (Cursor.times decode (declared bytes)).run ⟨8, bytes.drop 8⟩ with
      | ok values c => simp
      | error e c => simp
  · obtain ⟨e, c', hrun⟩ := Decoder.Sized.u64.short ⟨0, bytes⟩ (Nat.lt_of_not_le hlength)
    rw [Decoder.decode, decodeMap, EStateM.run_bind, hrun]
    exact iff_of_false (by simp) fun h => hlength h.1

theorem length_of_decode (h : decodeMap.decode bytes = .ok segments) :
    segments.length = declared bytes := by
  obtain ⟨-, htable⟩ := decode_decodeMap_iff.mp h
  exact (sized_decode.entries htable).1

theorem decode_encodeMap (h : segments.length < 2 ^ 64) (rest : Bytes) :
    decodeMap.decode (encodeMap segments ++ rest) = .ok segments := by
  have hlength : 8 ≤ (encodeMap segments ++ rest).length := by
    rw [encodeMap, List.append_assoc, List.length_append, Wire.length_u64]
    exact Nat.le_add_right 8 _
  have hdrop : (encodeMap segments ++ rest).drop 8 = segments.flatMap encode ++ rest := by
    rw [encodeMap, List.append_assoc, List.drop_left' (Wire.length_u64 _)]
  have htable : Decoder.Reads (Cursor.times decode segments.length) (segments.flatMap encode)
      (segments.map id) := .times segments fun s _ => s.reads_encode
  rw [List.map_id] at htable
  rw [decode_decodeMap_iff, declared_encodeMap h rest, hdrop]
  exact ⟨hlength, htable.decode rest⟩

/-- Lists that a word of 64 bits can count come back, and no longer ones. -/
theorem decode_encodeMap_iff (segments : List Segment) (rest : Bytes) :
    decodeMap.decode (encodeMap segments ++ rest) = .ok segments ↔ segments.length < 2 ^ 64 := by
  refine ⟨fun h => ?_, fun h => decode_encodeMap h rest⟩
  rw [length_of_decode h]
  exact declared_lt (decode_decodeMap_iff.mp h).1

/-- **The format of load maps.** Every list of segments that a word can count is read back from its
load map, whatever follows it. Bytes are a load map exactly if they start with a count and all
declared segments are behind it, whatever these bytes are; then there are as many segments as
declared, and each of them is decoded from its own 80 bytes alone. This holds for every count, also
where the size of the table does not fit in a word. -/
theorem loadMap_format :
    (∀ (segments : List Segment) (rest : Bytes),
      decodeMap.decode (encodeMap segments ++ rest) = .ok segments ↔ segments.length < 2 ^ 64) ∧
    ∀ bytes : Bytes,
      ((∃ segments, decodeMap.decode bytes = .ok segments) ↔
        8 ≤ bytes.length ∧ 8 + 80 * declared bytes ≤ bytes.length) ∧
      ∀ segments, decodeMap.decode bytes = .ok segments →
        segments.length = declared bytes ∧
        ∀ i s, segments[i]? = some s →
          decode.decode ((bytes.drop (8 + 80 * i)).take 80) = .ok s := by
  refine ⟨decode_encodeMap_iff, fun bytes => ⟨?_, fun segments h => ?_⟩⟩
  · simp only [decode_decodeMap_iff, exists_and_left,
      (sized_decode.times (declared bytes)).exists_decode_iff, List.length_drop, recordSize]
    omega
  · obtain ⟨-, htable⟩ := decode_decodeMap_iff.mp h
    refine ⟨length_of_decode h, fun i s hs => ?_⟩
    have hentry := (sized_decode.entries htable).2 i s hs
    rwa [List.drop_drop, recordSize, Nat.mul_comm i 80] at hentry

/-- Two segments come back from a region that goes on behind them, the second one from its own
bytes. A count whose 80-fold is a multiple of 2^64 is refused. -/
theorem loadMap_format_of_two_segments :
    let first : Segment := ⟨1, 2, 0, 0, 0x2000, 0, 0x7f000000, 0x1000, 0x100, false⟩
    let second : Segment := ⟨1, 2, 3, 4, 5, 6, 0x7f100000, 0, 0x2100, true⟩
    let map := encodeMap [first, second] ++ [255, 255]
    decodeMap.decode map = .ok [first, second] ∧
      decode.decode ((map.drop 88).take 80) = .ok second ∧
      ¬ ∃ segments, decodeMap.decode (Wire.u64 0x1000000000000000) = .ok segments := by
  intro first second map
  obtain ⟨hback, hbytes⟩ := loadMap_format
  have hmap : decodeMap.decode map = .ok [first, second] :=
    (hback [first, second] [255, 255]).mpr (by decide)
  have hcount := declared_u64_append 0x1000000000000000 []
  rw [List.append_nil] at hcount
  refine ⟨hmap, ((hbytes map).2 _ hmap).2 1 second rfl, ?_⟩
  have htoNat : (0x1000000000000000 : UInt64).toNat = 2 ^ 60 := rfl
  rw [(hbytes (Wire.u64 0x1000000000000000)).1, hcount, htoNat, Wire.length_u64]
  omega

end Segment

end GpuDebug
