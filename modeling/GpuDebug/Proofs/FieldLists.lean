import GpuDebug.Proofs.CommandFormat
import GpuDebug.Wire.Field
import Mathlib.Data.List.Forall2

/-!
# Records field by field

A record is written as a list of fields, and read by the shapes of its fields. The reader goes on
after a field that is not there in full; it then stands where it stood.

* `Field.ComesBack`, `Field.carried`: what is left of a field.
* `Shape.attempt`, `Cursor.readAll`: one read, and one read after the other, failed or not.
* `Shape.attempt_eq`: what a read comes to.
* `Wire.written_fields_read_back`: the main result.
-/

namespace GpuDebug.Wire

/-! ## One field -/

namespace Field

/-- What a field may come back as: numbers as they were, a text cut to what the field holds. -/
inductive ComesBack : Field → Field → Prop
  | u32 (value : UInt32) : ComesBack (.u32 value) (.u32 value)
  | i32 (value : Int32) : ComesBack (.i32 value) (.i32 value)
  | u64 (value : UInt64) : ComesBack (.u64 value) (.u64 value)
  | i64 (value : Int64) : ComesBack (.i64 value) (.i64 value)
  | text {value left : String} {width : Nat} : IsCut (width - 1) value left →
    ComesBack (.text value width) (.text left width)
  | gap (count : Nat) : ComesBack (.gap count) (.gap count)

/-- What is left of a field. -/
def carried : Field → Field
  | text value width => text (Wire.carried value width) width
  | field => field

theorem comesBack_carried (field : Field) : ComesBack field field.carried := by
  cases field with
  | text value width => exact .text (isCut_carried value width)
  | u32 value => exact .u32 value
  | i32 value => exact .i32 value
  | u64 value => exact .u64 value
  | i64 value => exact .i64 value
  | gap count => exact .gap count

theorem reads (field : Field) : Decoder.Reads field.shape.read field.bytes field.carried := by
  cases field with
  | u32 value => exact (Decoder.Reads.u32 value).map
  | i32 value => exact (Decoder.Reads.i32 value).map
  | u64 value => exact (Decoder.Reads.u64 value).map
  | i64 value => exact (Decoder.Reads.u64 value.toUInt64).map.map
  | text value width => exact (Decoder.Reads.text value width).map
  | gap count => exact (Decoder.Reads.skip (length_gap count)).map

end Field

namespace Shape

/-- The number of bytes that a read takes. -/
def width : Shape → Nat
  | u32 | i32 => 4
  | u64 | i64 => 8
  | text width => width
  | gap count => count

/-- The field that some bytes make up. -/
def parse : Shape → Bytes → Field
  | u32, bytes => .u32 (UInt32.ofNat (ofLittleEndian bytes))
  | i32, bytes => .i32 (UInt32.ofNat (ofLittleEndian bytes)).toInt32
  | u64, bytes => .u64 (UInt64.ofNat (ofLittleEndian bytes))
  | i64, bytes => .i64 (UInt64.ofNat (ofLittleEndian bytes)).toInt64
  | text width, bytes => .text (String.ofList (Utf8.decode (bytes.takeWhile (· != 0)))) width
  | gap count, _ => .gap count

theorem shape_parse (shape : Shape) (bytes : Bytes) : (shape.parse bytes).shape = shape := by
  cases shape <;> rfl

/-- Every read takes its bytes at once. -/
theorem read_eq (shape : Shape) :
    shape.read = do return shape.parse (← Cursor.take shape.width) := by
  cases shape <;> simp [read, parse, width, Cursor.u32, Cursor.i32, Cursor.u64, Cursor.i64,
    Cursor.text, Cursor.skip]

/-- The result of a read, and the cursor after it. -/
def attempt (shape : Shape) (c : Cursor) : Except Error Field × Cursor :=
  match shape.read.run c with
  | .ok field c' => (.ok field, c')
  | .error e c' => (.error e, c')

/-- **What a read comes to.** It takes all of its bytes, or it fails and takes none. -/
theorem attempt_eq (shape : Shape) (c : Cursor) : shape.attempt c =
    if shape.width ≤ c.remaining then
      (.ok (shape.parse (c.rest.take shape.width)),
        ⟨c.position + shape.width, c.rest.drop shape.width⟩)
    else (.error (c.truncated shape.width), c) := by
  have htake : (Cursor.take shape.width).run c =
      if (c.rest.take shape.width).length = shape.width then
        .ok (c.rest.take shape.width) ⟨c.position + shape.width, c.rest.drop shape.width⟩
      else .error (c.truncated shape.width) c := rfl
  have hlength : (c.rest.take shape.width).length = shape.width ↔ shape.width ≤ c.remaining := by
    rw [List.length_take, Cursor.remaining]
    omega
  rw [attempt, read_eq, EStateM.run_bind, htake]
  by_cases h : shape.width ≤ c.remaining
  · rw [if_pos (hlength.mpr h), if_pos h]
    rfl
  · rw [if_neg (mt hlength.mp h), if_neg h]

end Shape

/-! ## One field after the other -/

/-- Reads one field after the other, whether the reads succeed or fail: the results, and the cursor
after the last one. -/
def Cursor.readAll (c : Cursor) : List Shape → List (Except Error Field) × Cursor
  | [] => ([], c)
  | shape :: shapes =>
    let (result, c) := shape.attempt c
    let (results, c) := readAll c shapes
    (result :: results, c)

theorem Cursor.readAll_cons (c : Cursor) (shape : Shape) (shapes : List Shape) :
    c.readAll (shape :: shapes) =
      ((shape.attempt c).1 :: ((shape.attempt c).2.readAll shapes).1,
        ((shape.attempt c).2.readAll shapes).2) := rfl

/-- Fields that were written are read back, wherever they stand. -/
theorem readAll_flatMap_bytes (fields : List Field) (position : Nat) (rest : Bytes) :
    Cursor.readAll ⟨position, fields.flatMap Field.bytes ++ rest⟩ (fields.map Field.shape) =
      (fields.map fun field => .ok field.carried,
        ⟨position + (fields.flatMap Field.bytes).length, rest⟩) := by
  induction fields generalizing position with
  | nil => rfl
  | cons field fields ih =>
    have hfirst : field.shape.attempt ⟨position, field.bytes ++ (fields.flatMap Field.bytes ++ rest)⟩ =
        (.ok field.carried,
          ⟨position + field.bytes.length, fields.flatMap Field.bytes ++ rest⟩) := by
      rw [Shape.attempt, field.reads]
    rw [List.flatMap_cons, List.map_cons, List.append_assoc, Cursor.readAll_cons, hfirst, ih,
      List.map_cons, List.length_append, Nat.add_assoc]

/-- The cursor stands in the data: what is still to come is what follows the bytes that were
read. -/
structure Cursor.Within (c : Cursor) (data : Bytes) : Prop where
  rest_eq : c.rest = data.drop c.position
  le : c.position ≤ data.length

namespace Cursor.Within

variable {c : Cursor} {data : Bytes}

theorem position_add_remaining (h : c.Within data) : c.position + c.remaining = data.length := by
  rw [remaining, h.rest_eq, List.length_drop, Nat.add_sub_cancel' h.le]

/-- A read leaves the cursor in the data. -/
theorem attempt (h : c.Within data) (shape : Shape) : (shape.attempt c).2.Within data := by
  rw [shape.attempt_eq]
  split
  · next hle =>
    refine ⟨?_, ?_⟩
    · change c.rest.drop shape.width = data.drop (c.position + shape.width)
      rw [h.rest_eq, List.drop_drop]
    · rw [← h.position_add_remaining]
      exact Nat.add_le_add_left hle c.position
  · exact h

theorem readAll (h : c.Within data) (shapes : List Shape) : (c.readAll shapes).2.Within data := by
  induction shapes generalizing c with
  | nil => exact h
  | cons shape shapes ih => exact ih (h.attempt shape)

end Cursor.Within

/-- **Writer and reader agree field by field, and a failed read takes nothing.** Whatever follows
the fields that were written, reading their shapes gives each number as it was and each text as its
longest part of whole characters that leaves room for a zero, up to its first NUL; the reader then
stands behind the bytes that were written. In any data, after any reads, failed or not, the bytes
read and those still to come make up the data, and the next read takes all of its bytes, or it fails
and the cursor stays. -/
theorem written_fields_read_back :
    (∀ (fields : List Field) (rest : Bytes),
      ∃ back, List.Forall₂ Field.ComesBack fields back ∧
        Cursor.readAll ⟨0, fields.flatMap Field.bytes ++ rest⟩ (fields.map Field.shape) =
          (back.map .ok, ⟨(fields.flatMap Field.bytes).length, rest⟩)) ∧
    ∀ (data : Bytes) (shapes : List Shape) (shape : Shape),
      let c := (Cursor.readAll ⟨0, data⟩ shapes).2
      c.position + c.remaining = data.length ∧ c.rest = data.drop c.position ∧
        (c.remaining < shape.width ∧ shape.attempt c = (.error (c.truncated shape.width), c) ∨
          shape.width ≤ c.remaining ∧ ∃ field, field.shape = shape ∧ shape.attempt c =
            (.ok field, ⟨c.position + shape.width, c.rest.drop shape.width⟩)) := by
  refine ⟨fun fields rest => ⟨fields.map Field.carried, ?_, ?_⟩, fun data shapes shape => ?_⟩
  · rw [List.forall₂_map_right_iff, List.forall₂_same]
    exact fun field _ => field.comesBack_carried
  · rw [readAll_flatMap_bytes, Nat.zero_add, List.map_map]
    rfl
  · intro c
    have hstart : Cursor.Within ⟨0, data⟩ data := ⟨rfl, Nat.zero_le _⟩
    have hwithin : c.Within data := hstart.readAll shapes
    refine ⟨hwithin.position_add_remaining, hwithin.rest_eq, ?_⟩
    rcases Nat.lt_or_ge c.remaining shape.width with hshort | hle
    · refine .inl ⟨hshort, ?_⟩
      rw [shape.attempt_eq, if_neg (Nat.not_le_of_lt hshort)]
    · refine .inr ⟨hle, _, shape.shape_parse (c.rest.take shape.width), ?_⟩
      rw [shape.attempt_eq, if_pos hle]

/-- A letter of two bytes is not split, and a field of one byte holds nothing. -/
example : (Cursor.readAll ⟨0, [Field.text "aé" 3, .text "k" 1, .u32 7].flatMap Field.bytes⟩
    [.text 3, .text 1, .u32, .i64]).1 =
      [.ok (.text "a" 3), .ok (.text "" 1), .ok (.u32 7),
        .error (.invalidPacket "record truncated: need 8 bytes at offset 8, have 8")] := by
  decide +kernel

end GpuDebug.Wire
