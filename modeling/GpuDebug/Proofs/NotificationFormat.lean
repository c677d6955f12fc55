import GpuDebug.Proofs.Decoding
import GpuDebug.Proofs.Utf8
import Mathlib.Data.List.TakeWhile

/-!
# What a notification comes back as

Numbers come back as they were, a text comes back as far as its field holds it.

* `Wire.carried`, `Device.carried`, `Notification.carried`: what is left of a value.
* `Notification.carried_eq_self_iff`: what nothing is lost of.
* `Notification.format`: the main result.
-/

namespace GpuDebug

open Wire (Cursor Decoder)

/-! ## Texts in fields -/

namespace Wire

/-- What a field of `width` bytes gives back of a text: the part that it holds, up to the first
NUL. -/
def carried (value : String) (width : Nat) : String :=
  String.ofList ((held value width).takeWhile (· != '\x00'))

/-- The field holds the text, and there is no NUL in it. -/
def Fits (value : String) (width : Nat) : Prop :=
  (Utf8.encode value.toList).length ≤ width - 1 ∧ '\x00' ∉ value.toList

theorem takeWhile_append_gap (bytes : Bytes) (count : Nat) :
    (bytes ++ gap count).takeWhile (· != 0) = bytes.takeWhile (· != 0) := by
  induction bytes with
  | nil =>
    cases count with
    | zero => rfl
    | succ count => rfl
  | cons b bytes ih => rw [List.cons_append, List.takeWhile_cons, List.takeWhile_cons, ih]

/-- A part of a text is the text if the text fits and has no NUL, and only then. -/
theorem carried_eq_self_iff {value : String} {width : Nat} :
    carried value width = value ↔ Fits value width := by
  have hlist : carried value width = value ↔
      (held value width).takeWhile (· != '\x00') = value.toList := by
    rw [carried, ← String.toList_inj, String.toList_ofList]
  rw [hlist]
  constructor
  · intro h
    have hlength := (List.takeWhile_prefix (p := (· != '\x00')) (l := held value width)).length_le
    rw [h] at hlength
    have hheld : held value width = value.toList :=
      (Utf8.fitting_isPrefix _ _).eq_of_length_le hlength
    refine ⟨hheld ▸ Utf8.length_encode_fitting _ _, fun hnul => ?_⟩
    rw [hheld] at h
    have := List.takeWhile_eq_self_iff.mp h _ hnul
    exact absurd this (by decide)
  · rintro ⟨hfits, hnul⟩
    have hheld : held value width = value.toList :=
      (Utf8.fitting_isPrefix _ _).eq_of_length_le
        (Utf8.isPrefix_fitting List.prefix_rfl hfits).length_le
    rw [hheld]
    exact List.takeWhile_eq_self_iff.mpr fun c hc => bne_iff_ne.mpr fun h => hnul (h ▸ hc)

end Wire

/-! ## Reading a text -/

theorem Wire.Decoder.Reads.text (value : String) (width : Nat) :
    Reads (Cursor.text width) (Wire.text value width) (Wire.carried value width) := by
  have h := (take (Wire.length_text value width)).map
    (g := fun b => String.ofList (Utf8.decode (b.takeWhile (· != 0))))
  rwa [Wire.text, Wire.takeWhile_append_gap, Utf8.takeWhile_encode, Utf8.decode_encode] at h

/-! ## Devices -/

/-- What is left of a device. -/
def Device.carried (d : Device) : Device :=
  { d with name := Wire.carried d.name nameWidth }

theorem Device.carried_eq_self_iff {d : Device} :
    d.carried = d ↔ Wire.Fits d.name nameWidth := by
  rw [← Wire.carried_eq_self_iff]
  constructor
  · exact congrArg Device.name
  · intro h
    rw [carried, h]

theorem Wire.Decoder.Reads.device (d : Device) : Reads Device.decode d.encode d.carried := by
  simp only [Device.encode, List.append_assoc]
  exact (text d.name _).bind <| (u64 d.chip).bind <| (u32 d.shaderEngines).bind <|
    (u32 d.computeUnits).bind <| (u32 d.simdsPerUnit).bind <| (u32 d.wavesPerUnit).bind <|
    (u32 d.engineClock).bind <| (u32 d.memoryClock).bind <| (flag d.active).bind <|
    (skip (Wire.length_gap 4)).map

/-! ## Notifications -/

namespace Notification

/-- What is left of a notification. -/
def carried : Notification → Notification
  | newBinary kernel groupSize gridSize =>
    newBinary (Wire.carried kernel Command.kernelWidth) groupSize gridSize
  | breakpointHit numbers hits activeWaves =>
    breakpointHit (slots hitSlots (-1) numbers) (slots hitSlots 0 hits) activeWaves
  | devices reported => devices ((reported.take Device.most).map Device.carried)
  | n => n

/-- The packet has room for all of the notification, and no part of it is filled up. -/
def Fits : Notification → Prop
  | newBinary kernel _ _ => Wire.Fits kernel Command.kernelWidth
  | breakpointHit numbers hits _ => numbers.length = hitSlots ∧ hits.length = hitSlots
  | devices reported =>
    reported.length ≤ Device.most ∧ ∀ d ∈ reported, Wire.Fits d.name Device.nameWidth
  | _ => True

/-- The tag has a meaning. -/
def Known (tag : UInt32) : Prop :=
  ∃ n : Notification, n.tag = tag ∧ ∀ t, n ≠ unknown t

theorem length_slots (count : Nat) (fill : Int32) (entries : List Int32) :
    (slots count fill entries).length = count := by
  rw [slots, List.length_append, List.length_take, List.length_replicate]
  omega

theorem slots_eq_self_iff {count : Nat} {fill : Int32} {entries : List Int32} :
    slots count fill entries = entries ↔ entries.length = count := by
  constructor
  · intro h
    rw [← h, length_slots]
  · rintro rfl
    rw [slots, List.take_length, Nat.sub_self, List.replicate_zero, List.append_nil]

/-- Nothing is lost of a notification, and nothing is added, exactly if it fits. -/
theorem carried_eq_self_iff {n : Notification} : n.carried = n ↔ n.Fits := by
  cases n with
  | newBinary kernel groupSize gridSize => simp [carried, Fits, Wire.carried_eq_self_iff]
  | breakpointHit numbers hits activeWaves => simp [carried, Fits, slots_eq_self_iff]
  | devices reported =>
    have hmap : reported.map Device.carried = reported ↔ ∀ d ∈ reported, d.carried = d := by
      simpa using List.map_inj_left (f := Device.carried) (g := id) (l := reported)
    rw [carried, Fits, devices.injEq]
    constructor
    · intro h
      have hlength : reported.length ≤ Device.most := by
        rw [← h, List.length_map, List.length_take]
        exact Nat.min_le_left _ _
      rw [List.take_of_length_le hlength] at h
      refine ⟨hlength, fun d hd => Device.carried_eq_self_iff.mp ?_⟩
      exact hmap.mp h d hd
    · rintro ⟨hlength, hnames⟩
      rw [List.take_of_length_le hlength]
      exact hmap.mpr fun d hd => Device.carried_eq_self_iff.mpr (hnames d hd)
  | _ => exact iff_of_true rfl trivial

theorem decodePayload_of_not_known {tag : UInt32} (h : ¬ Known tag) :
    decodePayload tag = pure (unknown tag) := by
  have hne : ∀ n : Notification, (∀ t, n ≠ unknown t) → tag.toNat ≠ n.tag.toNat :=
    fun n hn heq => h ⟨n, UInt32.toNat_inj.mp heq.symm, hn⟩
  unfold decodePayload
  split
  · next htag => exact absurd htag (hne (newBinary "" .zero .zero) nofun)
  · next htag => exact absurd htag (hne (predispatch .unknown 0) nofun)
  · next htag => exact absurd htag (hne (startDebugThread 0) nofun)
  · next htag => exact absurd htag (hne (breakpointHit [] [] 0) nofun)
  · next htag => exact absurd htag (hne beginDebugging nofun)
  · next htag => exact absurd htag (hne (endDebugging false) nofun)
  · next htag => exact absurd htag (hne (focusChange .zero .zero) nofun)
  · next htag => exact absurd htag (hne (agentError 0) nofun)
  · next htag => exact absurd htag (hne (killComplete false) nofun)
  · next htag => exact absurd htag (hne (newActiveWaves 0) nofun)
  · next htag => exact absurd htag (hne (devices []) nofun)
  · rfl

/-- A payload is read behind its tag. -/
theorem reads_payload {n : Notification} (h : ∀ t, n = unknown t → ¬ Known t) :
    Decoder.Reads (decodePayload n.tag) n.payload n.carried := by
  cases n with
  | newBinary kernel groupSize gridSize =>
    rw [payload, List.append_assoc]
    exact (Decoder.Reads.text kernel _).bind ((Decoder.Reads.dim groupSize).bind
      (Decoder.Reads.dim gridSize).map)
  | predispatch state hostThread =>
    have hread : Decoder.Reads (decodePayload 2) (Wire.u32 state.code ++ Wire.i32 hostThread)
        (predispatch (PredispatchState.ofCode state.code) hostThread) :=
      (Decoder.Reads.u32 state.code).bind (Decoder.Reads.i32 hostThread).map
    rwa [PredispatchState.ofCode_code] at hread
  | startDebugThread thread => exact (Decoder.Reads.i32 thread).map
  | breakpointHit numbers hits activeWaves =>
    have table : ∀ fill entries, Decoder.Reads (Cursor.times Cursor.i32 hitSlots)
        ((slots hitSlots fill entries).flatMap Wire.i32) (slots hitSlots fill entries) := by
      intro fill entries
      have hread : Decoder.Reads (Cursor.times Cursor.i32 (slots hitSlots fill entries).length)
          ((slots hitSlots fill entries).flatMap Wire.i32)
          ((slots hitSlots fill entries).map id) :=
        .times _ fun number _ => .i32 number
      rwa [length_slots, List.map_id] at hread
    rw [payload, List.append_assoc]
    exact (table (-1) numbers).bind ((table 0 hits).bind (Decoder.Reads.u32 activeWaves).map)
  | beginDebugging => exact .pure _
  | endDebugging dispatchCompleted => exact (Decoder.Reads.flag dispatchCompleted).map
  | focusChange workGroup workItem =>
    exact (Decoder.Reads.dim workGroup).bind (Decoder.Reads.dim workItem).map
  | agentError code => exact (Decoder.Reads.i32 code).map
  | killComplete successful => exact (Decoder.Reads.flag successful).map
  | newActiveWaves count => exact (Decoder.Reads.u32 count).map
  | devices reported =>
    rw [payload, List.append_assoc]
    have hlength : (reported.take Device.most).length ≤ Device.most := List.length_take_le _ _
    have hcount : min (UInt32.ofNat (reported.take Device.most).length).toNat Device.most =
        (reported.take Device.most).length := by
      rw [UInt32.toNat_ofNat_of_lt' (Nat.lt_of_le_of_lt hlength (by decide))]
      exact Nat.min_eq_left hlength
    have hrecords := Decoder.Reads.times (reported.take Device.most) fun d _ =>
      Decoder.Reads.device d
    rw [← hcount] at hrecords
    exact (Decoder.Reads.u32 _).bind ((Decoder.Reads.skip (Wire.length_gap 4)).bind hrecords.map)
  | unknown tag =>
    rw [Notification.tag, decodePayload_of_not_known (h tag rfl)]
    exact .pure _

/-! ## Packets -/

/-- Every payload fits a packet. -/
theorem length_payload_le (n : Notification) :
    n.payload.length ≤ 8 + Device.most * Device.size := by
  cases n with
  | newBinary kernel groupSize gridSize =>
    simp only [payload, List.length_append, Wire.length_text, Dim.length_encode]
    decide
  | breakpointHit numbers hits activeWaves =>
    simp only [payload, List.length_append, Wire.length_u32,
      Wire.length_flatMap_of_length Wire.length_i32, length_slots]
    decide
  | devices reported =>
    have hlength : (reported.take Device.most).length ≤ Device.most := List.length_take_le _ _
    simp only [payload, List.length_append, Wire.length_u32, Wire.length_gap,
      Wire.length_flatMap_of_length Device.length_encode]
    exact Nat.add_le_add_left (Nat.mul_le_mul_right _ hlength) 8
  | _ => simp [payload, Device.most, Device.size, Device.nameWidth]

theorem length_encode (n : Notification) : n.encode.length = size := by
  have hpayload := n.length_payload_le
  have hsize : size = 4 + (8 + Device.most * Device.size) := rfl
  rw [encode, Wire.padTo, List.length_append, Wire.length_gap, List.length_append, Wire.length_u32]
  omega

theorem decode_encode {n : Notification} (h : ∀ t, n = unknown t → ¬ Known t) :
    decode n.encode = .ok n.carried := by
  rw [decode, if_pos n.length_encode, encode, Wire.padTo]
  exact ((Decoder.Reads.u32 n.tag).bind (reads_payload h)).decode _

/-- **The format of notifications.** Bytes can be read exactly if they have the length of a packet.
Every notification has such a packet. It is read as what is left of the notification, unless it says
of a tag with a meaning that it has none: names are cut to the longest part that fits their field
less its zero, and then at the first NUL; the numbers of breakpoints are cut or filled up with -1,
and their hits with 0; devices past the limit are left out. Notifications that fit come back as they
were. -/
theorem format :
    (∀ bytes, (∃ n, decode bytes = .ok n) ↔ bytes.length = size) ∧
    (∀ n : Notification, n.encode.length = size ∧
      ((∀ t, n = unknown t → ¬ Known t) → decode n.encode = .ok n.carried) ∧
      (n.carried = n ↔ n.Fits)) ∧
    ∀ (value : String) (width : Nat) (front : List Char), front = Wire.held value width ↔
      front <+: value.toList ∧ (Utf8.encode front).length ≤ width - 1 ∧
        ∀ other, other <+: value.toList → (Utf8.encode other).length ≤ width - 1 →
          other <+: front :=
  ⟨exists_decode_iff, fun n => ⟨n.length_encode, decode_encode, carried_eq_self_iff⟩,
    fun _ _ _ => Utf8.eq_fitting_iff⟩

/-- A name is cut at a NUL, and a tag without a meaning is kept. -/
theorem format_of_cut_name_and_tag :
    decode (newBinary "va\x00dd" .zero .zero).encode = .ok (newBinary "va" .zero .zero) ∧
      decode (unknown 12).encode = .ok (unknown 12) := by
  have hunknown : ¬ Known 12 := by
    rintro ⟨n, htag, hn⟩
    cases n with
    | unknown tag => exact hn tag rfl
    | _ => cases htag
  refine ⟨(format.2.1 (newBinary "va\x00dd" .zero .zero)).2.1 nofun,
    (format.2.1 (unknown 12)).2.1 ?_⟩
  rintro t ⟨⟩
  exact hunknown

end Notification

end GpuDebug
