import GpuDebug.Memory
import GpuDebug.Proofs.Records

/-!
# The published code object

The agent publishes a code object in a region of shared memory: the number of its bytes, and the
bytes. Only the start of the region is replaced, so bytes of an earlier content may lie behind. The
number comes from another program, and is checked against a limit and against the bytes that are
there.

* `SharedMemory.writeInPlace`: a region is written step by step. This is `SharedMemory.write`, and a
  failure comes before anything is changed (`SharedMemory.run_writeInPlace_of_gt`).
* `SharedMemory.Sound`: the content of which an image is read, and the only one
  (`SharedMemory.decode_of_not_sound`).
* `SharedMemory.readImage_publishImage`: the main result.
-/

namespace GpuDebug

open Wire (Cursor Decoder)

@[simp] theorem PerRegion.set_set {α : Type} (p : PerRegion α) (region : Region) (first last : α) :
    (p.set region first).set region last = p.set region last := by
  cases region <;> rfl

namespace SharedMemory

/-! ## Writing in place -/

/-- Changes what a region holds; a region that does not exist is created empty. -/
def alter (m : SharedMemory) (region : Region) (change : Bytes → Bytes) : SharedMemory :=
  { m with contents := m.contents.set region (some (change ((m.contents.get region).getD []))) }

/-- Writes a growing region in place: the limit is checked, the region is created if needed and
filled up with zeros as far as the new content goes, and its start is replaced. -/
def writeInPlace (region : Region) (bytes : Bytes) : EStateM Error SharedMemory Unit := do
  if let some limit := (← get).limit? region then
    if limit < bytes.length then throw (overflow region bytes.length limit)
  modify (·.alter region id)
  modify (·.alter region (Wire.padTo bytes.length))
  modify (·.alter region (overwrite bytes))

/-- Publishes a code object in place. -/
def publishImage (image : Bytes) : EStateM Error SharedMemory Unit :=
  writeInPlace .binaryImage (Wire.u64 (UInt64.ofNat image.length) ++ image)

variable {m : SharedMemory} {region : Region} {bytes : Bytes} {limits : Option (PerRegion Nat)}

theorem alter_alter (m : SharedMemory) (region : Region) (first last : Bytes → Bytes) :
    (m.alter region first).alter region last = m.alter region (last ∘ first) := by
  simp [alter]

/-- The zeros are all overwritten. -/
theorem overwrite_padTo (bytes previous : Bytes) :
    overwrite bytes (Wire.padTo bytes.length previous) = overwrite bytes previous := by
  rw [overwrite, Wire.padTo, List.drop_append, overwrite]
  have hgap (count : Nat) : (Wire.gap count).drop count = [] :=
    List.drop_eq_nil_of_le (Nat.le_of_eq (Wire.length_gap count))
  rw [hgap, List.append_nil]

/-- Content past the limit is refused at once. -/
theorem run_writeInPlace_of_gt {limit : Nat} (hlimit : m.limit? region = some limit)
    (hgt : limit < bytes.length) :
    m.write region bytes = .error (overflow region bytes.length limit) ∧
      (writeInPlace region bytes).run m = .error (overflow region bytes.length limit) m := by
  constructor
  · unfold write
    rw [hlimit]
    dsimp only
    rw [if_pos hgt]
    rfl
  · unfold writeInPlace
    rw [EStateM.run_bind, EStateM.run_get]
    dsimp only
    rw [hlimit]
    dsimp only
    rw [if_pos hgt]
    rfl

/-- Other content replaces the start of the region. -/
theorem run_writeInPlace_of_le (hgrows : m.provision = .growing limits)
    (hle : ∀ limit, m.limit? region = some limit → bytes.length ≤ limit) :
    m.write region bytes = .ok (m.alter region (overwrite bytes)) ∧
      (writeInPlace region bytes).run m = .ok () (m.alter region (overwrite bytes)) := by
  have hprepared : m.prepared region = .ok ((m.contents.get region).getD []) := by
    unfold prepared
    rw [hgrows]
    cases m.contents.get region <;> rfl
  have hsteps : ((m.alter region id).alter region (Wire.padTo bytes.length)).alter region
      (overwrite bytes) = m.alter region (overwrite bytes) := by
    rw [alter_alter, alter_alter]
    exact congrArg (m.alter region) (funext (overwrite_padTo bytes))
  unfold write writeInPlace
  rw [EStateM.run_bind, EStateM.run_get]
  dsimp only
  cases hlimit : m.limit? region with
  | none => exact ⟨by rw [hprepared]; rfl, congrArg (EStateM.Result.ok ()) hsteps⟩
  | some limit =>
    dsimp only
    rw [if_neg (Nat.not_lt_of_le (hle limit hlimit)), if_neg (Nat.not_lt_of_le (hle limit hlimit))]
    exact ⟨by rw [hprepared]; rfl, congrArg (EStateM.Result.ok ()) hsteps⟩

/-! ## Reading -/

/-- The size that a region declares for its image: the number in its first eight bytes. -/
def declaredSize (raw : Bytes) : Nat :=
  Wire.ofLittleEndian (raw.take 8)

/-- The size that is declared is one of an image: it is positive and below `most`, and the region
holds as many bytes behind it. -/
def Sound (most : Nat) (raw : Bytes) : Prop :=
  0 < declaredSize raw ∧ declaredSize raw < most ∧ 8 + declaredSize raw ≤ raw.length

variable {most : Nat} {raw : Bytes}

theorem not_sound_iff (h : 8 ≤ raw.length) : ¬ Sound most raw ↔
    declaredSize raw = 0 ∨ most ≤ declaredSize raw ∨
      Cursor.remaining ⟨8, raw.drop 8⟩ < declaredSize raw := by
  have hbehind : Cursor.remaining ⟨8, raw.drop 8⟩ = raw.length - 8 := List.length_drop
  unfold Sound
  omega

/-- The size is checked as soon as it is read. -/
theorem run_decodeImage (h : 8 ≤ raw.length) :
    let size := declaredSize raw
    let behind : Cursor := ⟨8, raw.drop 8⟩
    (decodeImage most).run ⟨0, raw⟩ =
      if size = 0 ∨ most ≤ size ∨ behind.remaining < size then
        .error (.invalidPacket
          s!"binary region declares {size} bytes (region holds {behind.remaining}, limit {most})")
          behind
      else (Cursor.take size).run behind := by
  intro size behind
  obtain ⟨word, hword, hrun⟩ := Decoder.exists_run_u64 h
  unfold decodeImage
  rw [EStateM.run_bind, hrun]
  dsimp only
  rw [show word.toNat = size from hword, EStateM.run_bind, EStateM.run_get]
  dsimp only
  simp only [Bool.or_eq_true, decide_eq_true_eq, or_assoc]
  split <;> rfl

theorem decode_of_sound (h : Sound most raw) :
    (decodeImage most).decode raw = .ok ((raw.drop 8).take (declaredSize raw)) := by
  have hheader : 8 ≤ raw.length := Nat.le_of_add_right_le h.2.2
  have hbehind : declaredSize raw ≤ (raw.drop 8).length := by
    rw [List.length_drop]
    exact Nat.le_sub_of_add_le' h.2.2
  have hread : (Cursor.take (declaredSize raw)).run ⟨8, raw.drop 8⟩ = .ok _ _ :=
    if_pos (List.length_take_of_le hbehind)
  rw [Decoder.decode, run_decodeImage hheader, if_neg fun hrefused =>
    (not_sound_iff hheader).mpr hrefused h, hread]

/-- Whatever else a region holds does not have the agreed form. -/
theorem decode_of_not_sound (h : ¬ Sound most raw) :
    ∃ detail, (decodeImage most).decode raw = .error (.invalidPacket detail) := by
  by_cases hheader : 8 ≤ raw.length
  · rw [Decoder.decode, run_decodeImage hheader, if_pos ((not_sound_iff hheader).mp h)]
    exact ⟨_, rfl⟩
  · have hlength : (raw.take 8).length ≠ 8 := by
      rw [List.length_take]
      omega
    have hshort : (Cursor.take 8).run ⟨0, raw⟩ = .error _ _ := if_neg hlength
    rw [Decoder.decode, decodeImage, EStateM.run_bind, Cursor.u64, EStateM.run_bind, hshort]
    exact ⟨_, rfl⟩

/-! ## Reading what was published -/

/-- What lies behind the image is not read. -/
theorem decode_published_iff {image rest : Bytes}
    (hraw : raw = Wire.u64 (UInt64.ofNat image.length) ++ image ++ rest) :
    (decodeImage most).decode raw = .ok image ↔
      0 < image.length ∧ image.length < most ∧ image.length < 2 ^ 64 := by
  have hsize : declaredSize raw = image.length % 2 ^ 64 := by
    rw [hraw, declaredSize, List.append_assoc, Wire.ofLittleEndian_take_u64_append,
      UInt64.toNat_ofNat']
  have hbehind : raw.drop 8 = image ++ rest := by
    rw [hraw, List.append_assoc, List.drop_left' (Wire.length_u64 _)]
  constructor
  · intro h
    by_cases hsound : Sound most raw
    · rw [decode_of_sound hsound, hbehind, hsize] at h
      have htaken := congrArg List.length (Except.ok.inj h)
      rw [List.length_take] at htaken
      -- As many bytes are read as the word says, so the word is not too small.
      have hcounted : image.length % 2 ^ 64 = image.length := by
        have := Nat.mod_le image.length (2 ^ 64)
        omega
      obtain ⟨hpositive, hbelow, -⟩ := hsound
      rw [hsize, hcounted] at hpositive hbelow
      exact ⟨hpositive, hbelow, hcounted ▸ Nat.mod_lt _ (Nat.two_pow_pos 64)⟩
    · obtain ⟨detail, herror⟩ := decode_of_not_sound hsound
      cases h.symm.trans herror
  · rintro ⟨hpositive, hbelow, hcounted⟩
    rw [Nat.mod_eq_of_lt hcounted] at hsize
    have hlength : raw.length = 8 + image.length + rest.length := by
      rw [hraw, List.length_append, List.length_append, Wire.length_u64]
    have hsound : Sound most raw := by
      unfold Sound
      omega
    rw [decode_of_sound hsound, hbehind, hsize, List.take_left]

/-- Either the limit is passed and nothing is written, or the image is put at the start of its
region. -/
theorem run_publishImage_cases (hgrows : m.provision = .growing limits) (image : Bytes) :
    (∃ limit e, m.limit? .binaryImage = some limit ∧ limit < 8 + image.length ∧
      m.writeImage image = .error e ∧ (publishImage image).run m = .error e m) ∨
    ∃ m', m' = m.alter .binaryImage (overwrite (Wire.u64 (UInt64.ofNat image.length) ++ image)) ∧
      m.writeImage image = .ok m' ∧ (publishImage image).run m = .ok () m' := by
  have hlength : (Wire.u64 (UInt64.ofNat image.length) ++ image).length = 8 + image.length := by
    rw [List.length_append, Wire.length_u64]
  by_cases hgt : ∃ limit, m.limit? .binaryImage = some limit ∧ limit < 8 + image.length
  · obtain ⟨limit, hlimit, hgt⟩ := hgt
    have hrefused := run_writeInPlace_of_gt hlimit (hlength ▸ hgt)
    exact .inl ⟨limit, _, hlimit, hgt, hrefused⟩
  · have hwritten := run_writeInPlace_of_le hgrows fun limit hlimit => by
      rw [hlength]
      exact Nat.le_of_not_lt fun h => hgt ⟨limit, hlimit, h⟩
    exact .inr ⟨_, rfl, hwritten⟩

theorem readImage_of_absent (h : m.read .binaryImage = none) : m.readImage most = .ok none := by
  unfold readImage
  rw [h]

theorem readImage_eq_ok_iff {image : Bytes} (hraw : m.read .binaryImage = some raw) :
    m.readImage most = .ok (some image) ↔ (decodeImage most).decode raw = .ok image := by
  unfold readImage
  rw [hraw]
  dsimp only
  cases (decodeImage most).decode raw with
  | ok found =>
    constructor
    · rintro ⟨⟩
      rfl
    · rintro ⟨⟩
      rfl
  | error e => exact iff_of_false nofun nofun

theorem readImage_eq_error {e : Error} (hraw : m.read .binaryImage = some raw)
    (h : (decodeImage most).decode raw = .error e) : m.readImage most = .error e := by
  unfold readImage
  rw [hraw]
  dsimp only
  rw [h]
  rfl

/-- **Publishing and reading a code object.** Whatever growing regions hold, with or without limits,
publishing an image changes the region of images alone, and if it fails it has changed nothing; it
fails only where a limit is passed. An image that was published is read back exactly if it is not
empty, below the limit of the reader, and no longer than a word can say; what an earlier content
left behind it does not matter. From any region, the image that is read is as many bytes behind the
first word as that word says, if it says a positive number below the limit of the reader and these
bytes are all there; any other content is refused, and without a region there is no image. -/
theorem readImage_publishImage (limits : Option (PerRegion Nat))
    (contents : PerRegion (Option Bytes)) (most : Nat) :
    (∀ image : Bytes,
      let m : SharedMemory := ⟨.growing limits, contents⟩
      match (publishImage image).run m with
      | .ok _ m' =>
        m.writeImage image = .ok m' ∧
          (∀ region, region ≠ .binaryImage → m'.contents.get region = contents.get region) ∧
          (m'.readImage most = .ok (some image) ↔
            0 < image.length ∧ image.length < most ∧ image.length < 2 ^ 64)
      | .error e m' =>
        m.writeImage image = .error e ∧ m' = m ∧
          ∃ limit, m.limit? .binaryImage = some limit ∧ limit < 8 + image.length) ∧
    ∀ m : SharedMemory,
      match m.read .binaryImage with
      | none => m.readImage most = .ok none
      | some raw =>
        (∀ image, m.readImage most = .ok (some image) ↔
          Sound most raw ∧ image = (raw.drop 8).take (declaredSize raw)) ∧
        (¬ Sound most raw → ∃ detail, m.readImage most = .error (.invalidPacket detail)) := by
  constructor
  · intro image m
    rcases run_publishImage_cases (m := m) rfl image with
      ⟨limit, e, hlimit, hgt, hwrite, hrun⟩ | ⟨m', rfl, hwrite, hrun⟩
    · rw [hrun]
      exact ⟨hwrite, rfl, limit, hlimit, hgt⟩
    · rw [hrun]
      refine ⟨hwrite, fun region hregion => ?_, ?_⟩
      · exact (PerRegion.get_set _ _ _ _).trans (if_neg (Ne.symm hregion))
      · rw [readImage_eq_ok_iff rfl]
        exact decode_published_iff rfl
  · intro m
    cases hregion : m.read .binaryImage with
    | none => exact readImage_of_absent hregion
    | some raw =>
      refine ⟨fun image => ?_, fun hrefused => ?_⟩
      · rw [readImage_eq_ok_iff hregion]
        by_cases hsound : Sound most raw
        · rw [decode_of_sound hsound, and_iff_right hsound, Except.ok.injEq, eq_comm]
        · obtain ⟨detail, herror⟩ := decode_of_not_sound hsound
          rw [herror]
          exact iff_of_false nofun fun h => hsound h.1
      · obtain ⟨detail, herror⟩ := decode_of_not_sound hrefused
        exact ⟨detail, readImage_eq_error hregion herror⟩

/-- An image of three bytes comes back from a region that held twelve others. A region that declares
the largest size is refused, and so is an image that is too long for its region; what the regions
held then stays. -/
theorem readImage_publishImage_over_longer :
    let stale : Bytes := List.replicate 12 255
    let m : SharedMemory := ⟨.growing none, ⟨some stale, none, some [1], none⟩⟩
    let limited : SharedMemory := { m with provision := .growing (some (PerRegion.const 8)) }
    (∃ m', (publishImage [127, 69, 76]).run m = .ok () m' ∧ m'.contents.loadMap = some [1] ∧
        m'.readImage 4 = .ok (some [127, 69, 76])) ∧
      (∃ detail, m.readImage (2 ^ 64 - 1) = .error (.invalidPacket detail)) ∧
      ∃ e, (publishImage [127]).run limited = .error e limited := by
  intro stale m limited
  obtain ⟨hpublish, -⟩ := readImage_publishImage none m.contents 4
  obtain ⟨-, hread⟩ := readImage_publishImage none m.contents (2 ^ 64 - 1)
  obtain ⟨hlimited, -⟩ := readImage_publishImage (some (PerRegion.const 8)) m.contents 4
  obtain ⟨-, hothers, himage⟩ := hpublish [127, 69, 76]
  refine ⟨⟨_, rfl, hothers .loadMap (by decide), himage.mpr (by decide)⟩, (hread m).2 ?_, ?_⟩
  · rintro ⟨-, hbelow, -⟩
    exact absurd hbelow (by decide)
  · obtain ⟨-, hstays, -⟩ := hlimited [127]
    exact ⟨_, congrArg (EStateM.Result.error _) hstays⟩

end SharedMemory

end GpuDebug
