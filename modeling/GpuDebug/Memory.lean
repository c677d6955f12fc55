import GpuDebug.Wire.Cursor

/-!
# Shared memory

The agent and the debugger share four regions. A region is read and written as a whole; writing
replaces the start of the region and leaves what is behind.

* `Region`: the four regions, and `PerRegion`, a value for each;
* `SharedMemory.read`, `SharedMemory.write`, `SharedMemory.remove`: access to a region;
* `SharedMemory.readImage`, `SharedMemory.writeImage`: the code object in the image region.

Regions come in two kinds: those that grow with what is written to them, and those that are
created with the largest size their reader admits.
-/

namespace GpuDebug

/-- A shared region. -/
inductive Region
  | binaryImage
  | waveInfo
  | loadMap
  | momentaryBreakpoints
  deriving DecidableEq, Repr, Inhabited

namespace Region

def name : Region → String
  | binaryImage => "BinaryImage"
  | waveInfo => "WaveInfo"
  | loadMap => "LoadMap"
  | momentaryBreakpoints => "MomentaryBreakpoints"

def all : List Region :=
  [binaryImage, waveInfo, loadMap, momentaryBreakpoints]

end Region

/-- A value for each region. -/
structure PerRegion (α : Type) where
  binaryImage : α
  waveInfo : α
  loadMap : α
  momentaryBreakpoints : α
  deriving DecidableEq, Repr, Inhabited

namespace PerRegion

variable {α β : Type}

def get (p : PerRegion α) : Region → α
  | .binaryImage => p.binaryImage
  | .waveInfo => p.waveInfo
  | .loadMap => p.loadMap
  | .momentaryBreakpoints => p.momentaryBreakpoints

def set (p : PerRegion α) (region : Region) (value : α) : PerRegion α :=
  match region with
  | .binaryImage => { p with binaryImage := value }
  | .waveInfo => { p with waveInfo := value }
  | .loadMap => { p with loadMap := value }
  | .momentaryBreakpoints => { p with momentaryBreakpoints := value }

def map (f : α → β) (p : PerRegion α) : PerRegion β :=
  ⟨f p.binaryImage, f p.waveInfo, f p.loadMap, f p.momentaryBreakpoints⟩

/-- One value for all regions. -/
def const (value : α) : PerRegion α := ⟨value, value, value, value⟩

@[simp] theorem get_set (p : PerRegion α) (r s : Region) (value : α) :
    (p.set r value).get s = if r = s then value else p.get s := by
  cases r <;> cases s <;> rfl

end PerRegion

/-- How regions are created. -/
inductive Provision
  /-- A region has the size of the longest content written to it, below its limit if there are
  limits. -/
  | growing (limits : Option (PerRegion Nat))
  /-- A region is created with exactly the size of its limit. -/
  | fixed (limits : PerRegion Nat)
  deriving DecidableEq, Repr

/-- The shared regions; `none` marks one that does not exist. -/
structure SharedMemory where
  provision : Provision
  contents : PerRegion (Option Bytes)
  deriving DecidableEq, Repr

namespace SharedMemory

/-- No region exists. -/
def empty (provision : Provision) : SharedMemory :=
  ⟨provision, PerRegion.const none⟩

instance : Inhabited SharedMemory := ⟨empty (.growing none)⟩

/-- The most bytes that may be written to a region. -/
def limit? (m : SharedMemory) (region : Region) : Option Nat :=
  match m.provision with
  | .growing limits => limits.map (·.get region)
  | .fixed limits => some (limits.get region)

/-- The content of a region. Of one with a fixed size no more than the limit is seen. -/
def read (m : SharedMemory) (region : Region) : Option Bytes :=
  match m.provision with
  | .growing _ => m.contents.get region
  | .fixed limits => (m.contents.get region).map (·.take (limits.get region))

/-- A region with its start replaced; it grows if the new content is longer. -/
def overwrite (bytes previous : Bytes) : Bytes :=
  bytes ++ previous.drop bytes.length

/-- The error for content past the limit. -/
def overflow (region : Region) (length limit : Nat) : Error :=
  .sharedMemory s!"{region.name} region overflow: {length} bytes, limit {limit}"

/-- The error for a region that cannot be had with the size of its limit. -/
def unavailable (region : Region) : Error :=
  .sharedMemory s!"shmget({region.name}) failed: Invalid argument (os error 22)"

/-- What a region holds before a write: a fixed one is created full of zeros, and one that exists
must not be smaller than its limit. -/
def prepared (m : SharedMemory) (region : Region) : Except Error Bytes :=
  match m.provision, m.contents.get region with
  | .growing _, some previous => .ok previous
  | .growing _, none => .ok []
  | .fixed limits, some previous =>
    if previous.length < limits.get region then .error (unavailable region) else .ok previous
  | .fixed limits, none =>
    if limits.get region = 0 then .error (unavailable region)
    else .ok (Wire.gap (limits.get region))

/-- Replaces the start of a region, and creates the region if needed. -/
def write (m : SharedMemory) (region : Region) (bytes : Bytes) : Except Error SharedMemory := do
  if let some limit := m.limit? region then
    if limit < bytes.length then throw (overflow region bytes.length limit)
  let previous ← m.prepared region
  return { m with contents := m.contents.set region (some (overwrite bytes previous)) }

/-- Removes a region, and says whether it existed. -/
def remove (m : SharedMemory) (region : Region) : Bool × SharedMemory :=
  ((m.contents.get region).isSome, { m with contents := m.contents.set region none })

/-- Removes every region. -/
def removeAll (m : SharedMemory) : SharedMemory :=
  { m with contents := PerRegion.const none }

open Wire in
/-- Reads the size of an image, which has to be positive and below `most`, and the image. -/
def decodeImage (most : Nat) : Decoder Bytes := do
  let size := (← Cursor.u64).toNat
  let cursor ← get
  if size = 0 || most ≤ size || cursor.remaining < size then
    throw (.invalidPacket
      s!"binary region declares {size} bytes (region holds {cursor.remaining}, limit {most})")
  Cursor.take size

/-- The code object that the agent published, if there is one. -/
def readImage (m : SharedMemory) (most : Nat) : Except Error (Option Bytes) :=
  match m.read .binaryImage with
  | none => .ok none
  | some raw => some <$> Wire.Decoder.decode (decodeImage most) raw

/-- Publishes a code object: its size and its bytes. -/
def writeImage (m : SharedMemory) (image : Bytes) : Except Error SharedMemory :=
  m.write .binaryImage (Wire.u64 (UInt64.ofNat image.length) ++ image)

end SharedMemory

end GpuDebug
