import GpuDebug.Proofs.NotificationFormat

/-!
# What a command comes back as

The agent reads a command off its packet. Numbers and kinds come back as they were, texts as far as
their fields hold them. What was cut off does not matter a second time: the command that comes back
has the same packet, and is as valid as the one that was sent.

* `Wire.IsCut`: the longest part of a text that fits, up to its first NUL.
* `Wire.text_carried`: what a field gives back of a text fills the field in the same way.
* `Command.carried`: what is left of a command.
* `Command.packet_comes_back`: the main result.
-/

namespace GpuDebug

open Wire (Decoder)

namespace Utf8

/-- The part that fits, fits. -/
theorem fitting_fitting (cs : List Char) (limit : Nat) :
    fitting (fitting cs limit) limit = fitting cs limit :=
  (eq_fitting_iff.mpr ⟨List.prefix_rfl, length_encode_fitting cs limit, fun _ h _ => h⟩).symm

/-- A character has at most four bytes, so something of a text always fits four. -/
theorem fitting_eq_nil_iff {cs : List Char} {limit : Nat} (h : 4 ≤ limit) :
    fitting cs limit = [] ↔ cs = [] := by
  cases cs with
  | nil => exact iff_of_true rfl rfl
  | cons c cs =>
    rw [fitting, if_pos (c.utf8Size_le_four.trans h)]
    exact iff_of_false (List.cons_ne_nil _ _) (List.cons_ne_nil _ _)

end Utf8

/-! ## Texts -/

namespace Wire

/-- What is left of a text: its longest part, from the start, of whole characters with at most
`limit` bytes, up to the first NUL of that part. -/
def IsCut (limit : Nat) (value left : String) : Prop :=
  ∃ front, front <+: value.toList ∧ (Utf8.encode front).length ≤ limit ∧
    (∀ other, other <+: value.toList → (Utf8.encode other).length ≤ limit → other <+: front) ∧
    left = String.ofList (front.takeWhile (· != '\x00'))

theorem isCut_carried (value : String) (width : Nat) :
    IsCut (width - 1) value (carried value width) := by
  obtain ⟨hfront, hfits, hlongest⟩ := Utf8.eq_fitting_iff.mp (rfl : held value width = _)
  exact ⟨held value width, hfront, hfits, hlongest, rfl⟩

variable {value : String} {width : Nat}

/-- Of a text without NUL, the whole part that the field holds comes back. -/
theorem carried_of_nul_notMem (h : '\x00' ∉ value.toList) :
    carried value width = String.ofList (held value width) := by
  have hpart : ∀ c ∈ held value width, (c != '\x00') = true := by
    rintro c hc
    refine bne_iff_ne.mpr fun hnul => h ?_
    exact hnul ▸ (Utf8.fitting_isPrefix _ _).subset hc
  rw [carried, List.takeWhile_eq_self_iff.mpr hpart]

/-- What comes back of a text without NUL fills the field as the text did. -/
theorem text_carried (h : '\x00' ∉ value.toList) :
    text (carried value width) width = text value width := by
  have hheld : held (carried value width) width = held value width := by
    rw [carried_of_nul_notMem h, held, String.toList_ofList]
    exact Utf8.fitting_fitting _ _
  rw [text, text, hheld]

/-- Nothing comes back only of the empty text. -/
theorem carried_eq_empty_iff (h : '\x00' ∉ value.toList) (hwidth : 5 ≤ width) :
    carried value width = "" ↔ value = "" := by
  rw [carried_of_nul_notMem h, ← String.toList_inj, ← String.toList_inj, String.toList_ofList]
  exact Utf8.fitting_eq_nil_iff (by omega)

end Wire

/-! ## Packets -/

theorem Wire.Decoder.Reads.condition (c : PacketCondition) :
    Reads PacketCondition.decode c.encode c := by
  have h : Reads PacketCondition.decode c.encode
      ⟨.ofCode c.code.code, c.workGroup, c.workItem⟩ := by
    rw [PacketCondition.encode, List.append_assoc]
    exact (u32 c.code.code).bind ((dim c.workGroup).bind (dim c.workItem).map)
  rwa [ConditionCode.ofCode_code] at h

namespace Command

/-- What is left of a command. -/
def carried (c : Command) : Command :=
  { c with
    statement := Wire.carried c.statement statementWidth
    kernel := Wire.carried c.kernel kernelWidth }

theorem reads_encode (c : Command) : Decoder.Reads decode c.encode c.carried := by
  have h : Decoder.Reads decode c.encode { c.carried with
      tag := .ofCode c.tag.code, logging := .ofCode c.logging.code } := by
    simp only [encode, List.append_assoc]
    exact (Decoder.Reads.u32 c.tag.code).bind <| (Decoder.Reads.i32 c.breakpoint).bind <|
      (Decoder.Reads.u64 c.pc).bind <| (Decoder.Reads.i32 c.line).bind <|
      (Decoder.Reads.condition c.condition).bind <| (Decoder.Reads.u32 c.logging.code).bind <|
      (Decoder.Reads.i32 c.momentaryCount).bind <| (Decoder.Reads.text c.statement _).bind
      (Decoder.Reads.text c.kernel _).map
  rwa [CommandTag.ofCode_code, LoggingDirective.ofCode_code] at h

theorem decode_encode (c : Command) : decode.decode c.encode = .ok c.carried := by
  have h := c.reads_encode.decode []
  rwa [List.append_nil] at h

variable {c : Command}

/-- The command that comes back has the same packet. -/
theorem encode_carried (hstatement : '\x00' ∉ c.statement.toList)
    (hkernel : '\x00' ∉ c.kernel.toList) : c.carried.encode = c.encode := by
  simp only [encode, carried, Wire.text_carried hstatement, Wire.text_carried hkernel]

/-- The command that comes back is as valid as the one that was sent. -/
theorem validate_carried (hkernel : '\x00' ∉ c.kernel.toList) :
    c.carried.validate = c.validate := by
  have hempty := Wire.carried_eq_empty_iff hkernel (show 5 ≤ kernelWidth by decide)
  have hname : (c.carried.kernel != "") = (c.kernel != "") := by
    rw [Bool.eq_iff_iff, bne_iff_ne, bne_iff_ne]
    exact not_congr hempty
  have hvalid : c.carried.isValid = c.isValid := by
    unfold isValid
    rw [hname]
    rfl
  unfold validate
  rw [hvalid]
  rfl

theorem carried_eq_self (hstatement : Wire.Fits c.statement statementWidth)
    (hkernel : Wire.Fits c.kernel kernelWidth) : c.carried = c := by
  rw [carried, Wire.carried_eq_self_iff.mpr hstatement, Wire.carried_eq_self_iff.mpr hkernel]

/-- **The format of commands.** Every command has a packet of one size. It is read as the command
with both texts cut: to their longest part of whole characters with at most 255 bytes, and then at
the first NUL. If there is no NUL in the texts, the command that is read has the same packet and
passes the same checks; if the texts also fit, it is the command that was sent. -/
theorem packet_comes_back (c : Command) :
    c.encode.length = size ∧ decode.decode c.encode = .ok c.carried ∧
      (Wire.IsCut 255 c.statement c.carried.statement ∧
        Wire.IsCut 255 c.kernel c.carried.kernel) ∧
      ('\x00' ∉ c.statement.toList → '\x00' ∉ c.kernel.toList →
        c.carried.encode = c.encode ∧ c.carried.validate = c.validate ∧
          ((Utf8.encode c.statement.toList).length ≤ 255 →
            (Utf8.encode c.kernel.toList).length ≤ 255 → c.carried = c)) := by
  refine ⟨c.length_encode, c.decode_encode, ⟨?_, ?_⟩, fun hstatement hkernel => ⟨?_, ?_, ?_⟩⟩
  · exact Wire.isCut_carried c.statement statementWidth
  · exact Wire.isCut_carried c.kernel kernelWidth
  · exact encode_carried hstatement hkernel
  · exact validate_carried hkernel
  · exact fun hfits hfits' => carried_eq_self ⟨hfits, hstatement⟩ ⟨hfits', hkernel⟩

/-- Of 128 letters with two bytes each, 127 come back, and their packet is the same. -/
theorem long_name_comes_back_cut :
    let name (length : Nat) := String.ofList (List.replicate length 'é')
    let sent := createKernel 7 (name 128) .none
    let received := createKernel 7 (name 127) .none
    decode.decode sent.encode = .ok received ∧ received.encode = sent.encode ∧
      received.validate = .ok () := by
  intro name sent received
  have hname : Wire.carried (name 128) kernelWidth = name 127 := by
    rw [Wire.carried, Wire.held, String.toList_ofList]
    exact congrArg String.ofList (by decide)
  have hreceived : sent.carried = received := by
    change { sent with statement := Wire.carried "" _, kernel := Wire.carried (name 128) _ } = _
    rw [hname]
    rfl
  have hnonempty : name 127 ≠ "" := by
    rw [ne_eq, ← String.toList_inj, String.toList_ofList]
    exact List.cons_ne_nil _ _
  have hnul : '\x00' ∉ (name 128).toList := by
    rw [String.toList_ofList]
    exact fun hmem => absurd (List.eq_of_mem_replicate hmem) (by decide)
  obtain ⟨-, hdecode, -, hkept⟩ := packet_comes_back sent
  obtain ⟨hencode, -⟩ := hkept (by decide) hnul
  rw [hreceived] at hdecode hencode
  refine ⟨hdecode, hencode, if_pos ?_⟩
  simp [isValid, received, createKernel, blank, hnonempty]

end Command

end GpuDebug
