/-!
# UTF-8

Texts travel in fixed-width fields of bytes, so a text may be cut, and bytes that are not UTF-8
may come back.

* `Utf8.encode`: the bytes of a text;
* `Utf8.fitting`: the longest part of a text, from its start, whose bytes fit a bound;
* `Utf8.decode`: the text of any bytes, with U+FFFD for every part that is not UTF-8.

`Utf8.decode` replaces maximal parts: the bytes of a sequence that starts well and breaks off
later give one replacement together, every other bad byte gives one of its own.
-/

namespace GpuDebug.Utf8

/-- The UTF-8 bytes of a text. -/
def encode (cs : List Char) : List UInt8 :=
  cs.flatMap String.utf8EncodeChar

/-- The longest initial part of a text whose UTF-8 form has at most `limit` bytes. -/
def fitting : List Char → Nat → List Char
  | [], _ => []
  | c :: cs, limit => if c.utf8Size ≤ limit then c :: fitting cs (limit - c.utf8Size) else []

/-- The replacement for bytes that are not UTF-8. -/
def replacement : Char := '\uFFFD'

/-- A byte that continues a sequence. -/
def isContinuation (b : UInt8) : Bool :=
  0x80 ≤ b && b ≤ 0xBF

/-- The payload of a continuation byte. -/
def payload (b : UInt8) : Nat :=
  b.toNat % 64

/-- The bytes that may follow the first byte `b` of a sequence of three or four bytes: the
bounds leave out overlong forms, surrogates and values above U+10FFFF. -/
def second (b c : UInt8) : Bool :=
  if b == 0xE0 then 0xA0 ≤ c && c ≤ 0xBF
  else if b == 0xED then 0x80 ≤ c && c ≤ 0x9F
  else if b == 0xF0 then 0x90 ≤ c && c ≤ 0xBF
  else if b == 0xF4 then 0x80 ≤ c && c ≤ 0x8F
  else isContinuation c

/-- The character that starts with byte `b`, and how many of the bytes after `b` belong to it. -/
def lead (b : UInt8) (rest : List UInt8) : Char × Nat :=
  if b < 0x80 then (Char.ofNat b.toNat, 0)
  else if 0xC2 ≤ b && b ≤ 0xDF then
    match rest with
    | c :: _ =>
      if isContinuation c then (Char.ofNat (b.toNat % 32 * 64 + payload c), 1)
      else (replacement, 0)
    | [] => (replacement, 0)
  else if 0xE0 ≤ b && b ≤ 0xEF then
    match rest with
    | c :: d :: _ =>
      if !second b c then (replacement, 0)
      else if !isContinuation d then (replacement, 1)
      else (Char.ofNat ((b.toNat % 16 * 64 + payload c) * 64 + payload d), 2)
    | [c] => (replacement, if second b c then 1 else 0)
    | [] => (replacement, 0)
  else if 0xF0 ≤ b && b ≤ 0xF4 then
    match rest with
    | c :: d :: e :: _ =>
      if !second b c then (replacement, 0)
      else if !isContinuation d then (replacement, 1)
      else if !isContinuation e then (replacement, 2)
      else
        (Char.ofNat (((b.toNat % 8 * 64 + payload c) * 64 + payload d) * 64 + payload e), 3)
    | [c, d] =>
      (replacement, if !second b c then 0 else if !isContinuation d then 1 else 2)
    | [c] => (replacement, if second b c then 1 else 0)
    | [] => (replacement, 0)
  else (replacement, 0)

/-- Decodes after passing over the first `skip` bytes. -/
def decodeAfter : Nat → List UInt8 → List Char
  | _, [] => []
  | skip + 1, _ :: rest => decodeAfter skip rest
  | 0, b :: rest => (lead b rest).1 :: decodeAfter (lead b rest).2 rest

/-- The text of some bytes, with replacements for what is not UTF-8. -/
def decode (bytes : List UInt8) : List Char :=
  decodeAfter 0 bytes

/-- Whether some bytes are UTF-8: encoding what they decode to gives them back. -/
def isValid (bytes : List UInt8) : Bool :=
  encode (decode bytes) == bytes

@[simp] theorem encode_nil : encode [] = [] := rfl

@[simp] theorem encode_cons (c : Char) (cs : List Char) :
    encode (c :: cs) = String.utf8EncodeChar c ++ encode cs := rfl

theorem length_encode_fitting (cs : List Char) (limit : Nat) :
    (encode (fitting cs limit)).length ≤ limit := by
  induction cs generalizing limit with
  | nil => simp [fitting]
  | cons c cs ih =>
    unfold fitting
    split
    · have := ih (limit - c.utf8Size)
      simp
      omega
    · simp

theorem fitting_isPrefix (cs : List Char) (limit : Nat) : fitting cs limit <+: cs := by
  induction cs generalizing limit with
  | nil => simp [fitting]
  | cons c cs ih =>
    unfold fitting
    split
    · exact (List.prefix_cons_inj c).2 (ih _)
    · exact List.nil_prefix

end GpuDebug.Utf8
