import GpuDebug.Proofs.Records
import GpuDebug.Wave

/-!
# The format of wave tables

The live waves lie one after the other at the start of a region of shared memory; how many there are
is told by another message. A wave comes back with 64 lanes. As long as no lane executes that has no
work-item, this makes no difference to the lanes that execute.

* `Wave.carried`: what is left of a wave.
* `Wave.activeItems_carried`: the work-items that execute are left as they are.
* `Wave.table_format`: the main result.
-/

namespace GpuDebug

open Wire (Cursor Decoder)

namespace Wave

variable {w : Wave} {items : List Dim} {lane : Nat}

/-- What is left of a wave: its work-items are cut or filled up to one for each lane. -/
def carried (w : Wave) : Wave :=
  { w with workItems := laneItems w.workItems }

theorem length_laneItems (items : List Dim) : (laneItems items).length = lanes := by
  rw [laneItems, List.length_append, List.length_take, List.length_replicate]
  omega

/-- The work-item of a lane is kept; lanes without one get zero. -/
theorem getElem?_laneItems (h : lane < lanes) :
    (laneItems items)[lane]? = some (items[lane]?.getD Dim.zero) := by
  rw [laneItems]
  by_cases hlane : lane < items.length
  · have htake : lane < (items.take lanes).length := by
      rw [List.length_take]
      exact Nat.lt_min.mpr ⟨h, hlane⟩
    rw [List.getElem?_append_left htake, List.getElem?_take_of_lt h,
      List.getElem?_eq_getElem hlane, Option.getD_some]
  · have hle : items.length ≤ lane := Nat.le_of_not_lt hlane
    have htake : (items.take lanes).length = items.length :=
      congrArg List.length (List.take_of_length_le (by omega))
    rw [List.getElem?_append_right (htake.symm ▸ hle), htake, List.getElem?_replicate,
      if_pos (Nat.sub_lt_sub_right hle h), List.getElem?_eq_none hle, Option.getD_none]

/-! ## Reading waves -/

theorem sized_decode : Decoder.Sized size decode :=
  have h : Decoder.Sized (12 + (lanes * 12 + (8 + (8 + 8)))) decode :=
    .bind .dim fun _ => .bind (.times .dim lanes) fun _ => .bind .u64 fun _ => .bind .u64 fun _ =>
      .map .u64
  h

theorem reads_encode (w : Wave) : Decoder.Reads decode w.encode w.carried := by
  have hitems : Decoder.Reads (Cursor.times Dim.decode (laneItems w.workItems).length)
      ((laneItems w.workItems).flatMap Dim.encode) ((laneItems w.workItems).map id) :=
    .times _ fun item _ => .dim item
  rw [length_laneItems, List.map_id] at hitems
  simp only [encode, List.append_assoc]
  exact (Decoder.Reads.dim w.workGroup).bind <| hitems.bind <|
    (Decoder.Reads.u64 w.executing).bind <| (Decoder.Reads.u64 w.pc).bind <|
    (Decoder.Reads.u64 w.address).map

/-- The first waves of a table, whatever follows them. -/
theorem decodeTable_flatMap_encode {waves : List Wave} {count : Nat} (h : count ≤ waves.length)
    (rest : Bytes) : decodeTable (waves.flatMap encode ++ rest) count =
      .ok ((waves.take count).map carried) := by
  have htable : Decoder.Reads (Cursor.times decode (waves.take count).length)
      ((waves.take count).flatMap encode) ((waves.take count).map carried) :=
    .times _ fun w _ => w.reads_encode
  have hdecode := htable.decode ((waves.drop count).flatMap encode ++ rest)
  rwa [List.length_take_of_le h, ← List.append_assoc, ← List.flatMap_append,
    List.take_append_drop] at hdecode

/-! ## The lanes that execute -/

/-- The lanes that were filled up do not execute. -/
theorem activeItems_carried
    (h : ∀ lane, w.workItems.length ≤ lane → w.executing.toNat.testBit lane = false) :
    w.carried.activeItems = w.activeItems := by
  have htake : (laneItems w.workItems).take lanes = laneItems w.workItems :=
    List.take_of_length_le (Nat.le_of_eq (length_laneItems _))
  have hidle : ((List.replicate (lanes - w.workItems.length) Dim.zero).zipIdx
      (0 + (w.workItems.take lanes).length)).filter
        (fun p => w.executing.toNat.testBit p.2) = [] := by
    rw [List.filter_eq_nil_iff]
    rintro ⟨item, lane⟩ hmem
    obtain ⟨hfirst, hlast, -⟩ := List.mem_zipIdx hmem
    rw [List.length_take] at hfirst hlast
    rw [List.length_replicate] at hlast
    have hclear := h lane (by omega)
    exact fun hset => Bool.false_ne_true (hclear.symm.trans hset)
  change (((laneItems w.workItems).take lanes).zipIdx.filter
    fun p => w.executing.toNat.testBit p.2).map (·.1) = _
  rw [htake, laneItems, List.zipIdx_append, List.filter_append, hidle, List.append_nil]
  rfl

/-- **The format of wave tables.** The first waves of a table are read, whatever follows them, each
with 64 work-items: those of its lanes, and zero for the lanes without one. Any bytes can be read as
a number of waves exactly if there are that many records. If no lane of a wave executes that has no
work-item, then the wave that is read has the same lanes that execute, and the same first one. -/
theorem table_format :
    (∀ (waves : List Wave) (rest : Bytes) (count : Nat), count ≤ waves.length →
      decodeTable (waves.flatMap encode ++ rest) count = .ok ((waves.take count).map carried)) ∧
    (∀ w : Wave, w.carried.workItems.length = 64 ∧
      ∀ lane < 64, w.carried.workItems[lane]? = some (w.workItems[lane]?.getD Dim.zero)) ∧
    (∀ (bytes : Bytes) (count : Nat),
      (∃ waves, decodeTable bytes count = .ok waves) ↔ count * size ≤ bytes.length) ∧
    ∀ w : Wave, (∀ lane, w.workItems.length ≤ lane → w.executing.toNat.testBit lane = false) →
      (∀ workGroup workItem,
        w.carried.hasActiveLane workGroup workItem = w.hasActiveLane workGroup workItem) ∧
      w.carried.firstActiveItem? = w.firstActiveItem? := by
  refine ⟨fun waves rest count h => decodeTable_flatMap_encode h rest,
    fun w => ⟨length_laneItems _, fun lane h => getElem?_laneItems h⟩,
    fun bytes count => (sized_decode.times count).exists_decode_iff, fun w h => ?_⟩
  have hactive := activeItems_carried h
  refine ⟨fun workGroup workItem => ?_, ?_⟩
  · rw [hasActiveLane, hasActiveLane, hactive]
    rfl
  · rw [firstActiveItem?, firstActiveItem?, hactive]

/-- Of a wave with three work-items the last two execute, and still do so in the table. -/
theorem table_format_of_short_wave :
    let w : Wave := ⟨⟨1, 0, 0⟩, [⟨0, 0, 0⟩, ⟨1, 0, 0⟩, ⟨2, 0, 0⟩], 6, 0x40, 0⟩
    decodeTable ([w, w].flatMap encode ++ [7]) 1 = .ok [w.carried] ∧
      w.carried.workItems[3]? = some Dim.zero ∧
      w.carried.hasActiveLane ⟨1, 0, 0⟩ ⟨0, 0, 0⟩ = false ∧
      w.carried.firstActiveItem? = some ⟨1, 0, 0⟩ := by
  intro w
  have hidle : ∀ lane, w.workItems.length ≤ lane → w.executing.toNat.testBit lane = false := by
    intro lane hlane
    exact Nat.testBit_lt_two_pow (Nat.lt_of_lt_of_le (by decide : 6 < 2 ^ 3)
      (Nat.pow_le_pow_right (by decide) hlane))
  obtain ⟨hread, hitems, -, hlanes⟩ := table_format
  obtain ⟨hactive, hfirst⟩ := hlanes w hidle
  exact ⟨hread [w, w] [7] 1 (by decide), (hitems w).2 3 (by decide), (hactive _ _).trans (by decide),
    hfirst.trans (by decide)⟩

end Wave

end GpuDebug
