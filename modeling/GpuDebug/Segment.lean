import GpuDebug.Wire.Cursor

/-!
# Loaded segments

The agent publishes where the segments of a code object were loaded. Addresses are translated
through the first segment flagged as executing; both translations wrap around.

* `Segment`: one loaded segment, a record of 80 bytes;
* `Segment.encodeMap`, `Segment.decodeMap`: the load map, a count and its segments;
* `SegmentTable`: the load map last read;
* `SegmentTable.toProcess`, `SegmentTable.toCode`: the translations.
-/

namespace GpuDebug

/-- One loaded segment of a code object. -/
structure Segment where
  device : UInt64
  executable : UInt64
  storageType : UInt32
  storageBase : UInt64
  storageSize : UInt64
  storageOffset : UInt64
  /-- The process address at which the segment is loaded. -/
  base : UInt64
  size : UInt64
  /-- The address of the segment inside the code object. -/
  codeBase : UInt64
  isExecuted : Bool
  deriving DecidableEq, Repr, Inhabited

namespace Segment

/-- The size of a segment record. -/
def recordSize : Nat := 80

/-- Whether an address inside the code object belongs to the segment. An empty segment still has
its first address. -/
def containsCode (s : Segment) (address : UInt64) : Bool :=
  s.codeBase ≤ address && address - s.codeBase < max s.size 1

def encode (s : Segment) : Bytes :=
  Wire.u64 s.device ++ Wire.u64 s.executable ++ Wire.u32 s.storageType ++ Wire.gap 4 ++
    Wire.u64 s.storageBase ++ Wire.u64 s.storageSize ++ Wire.u64 s.storageOffset ++
    Wire.u64 s.base ++ Wire.u64 s.size ++ Wire.u64 s.codeBase ++ Wire.flag s.isExecuted ++
    Wire.gap 4

open Wire in
def decode : Decoder Segment := do
  let device ← Cursor.u64
  let executable ← Cursor.u64
  let storageType ← Cursor.u32
  Cursor.skip 4
  let storageBase ← Cursor.u64
  let storageSize ← Cursor.u64
  let storageOffset ← Cursor.u64
  let base ← Cursor.u64
  let size ← Cursor.u64
  let codeBase ← Cursor.u64
  let isExecuted ← Cursor.flag
  Cursor.skip 4
  return ⟨device, executable, storageType, storageBase, storageSize, storageOffset, base, size,
    codeBase, isExecuted⟩

/-- The load map that lists the given segments. -/
def encodeMap (segments : List Segment) : Bytes :=
  Wire.u64 (UInt64.ofNat segments.length) ++ segments.flatMap encode

/-- The size of a table of segments, or the largest word where a word is too small for it. -/
def tableSize (count : Nat) : Nat :=
  min (count * recordSize) (UInt64.size - 1)

open Wire in
/-- Reads a load map. The count is checked against the bytes that follow it before any segment
is read. -/
def decodeMap : Decoder (List Segment) := do
  let count := (← Cursor.u64).toNat
  let cursor ← get
  if tableSize count > cursor.remaining then
    throw (.invalidPacket
      s!"loadmap declares {count} segments but holds {cursor.remaining} bytes")
  Cursor.times decode count

@[simp] theorem length_encode (s : Segment) : s.encode.length = recordSize := by
  simp [encode, recordSize]

end Segment

/-- The load map last read, and which of its segments executes. -/
structure SegmentTable where
  segments : List Segment
  /-- The first segment that was flagged as executing when the table was loaded. -/
  executing : Option Segment
  deriving DecidableEq, Repr

namespace SegmentTable

def empty : SegmentTable := ⟨[], none⟩

instance : Inhabited SegmentTable := ⟨empty⟩

def ofSegments (segments : List Segment) : SegmentTable :=
  ⟨segments, segments.find? (·.isExecuted)⟩

/-- The table that a load-map region describes; no region gives the empty table. -/
def ofRegion : Option Bytes → Except Error SegmentTable
  | none => .ok empty
  | some bytes => ofSegments <$> Wire.Decoder.decode Segment.decodeMap bytes

/-- From an address inside the code object to a process address. -/
def toProcess (t : SegmentTable) (address : UInt64) : Except Error UInt64 :=
  match t.executing with
  | some s => .ok (address - s.codeBase + s.base)
  | none => .error .noExecutingSegment

/-- From a process address to an address inside the code object. -/
def toCode (t : SegmentTable) (address : UInt64) : Except Error UInt64 :=
  match t.executing with
  | some s => .ok (address - s.base + s.codeBase)
  | none => .error .noExecutingSegment

end SegmentTable

end GpuDebug
