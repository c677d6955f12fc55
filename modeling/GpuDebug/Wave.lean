import GpuDebug.Dim

/-!
# Live waves

* `Wave`: one live wave, a record of 804 bytes with 64 lanes;
* `Wave.hasActiveLane`, `Wave.firstActiveItem?`: the lanes that execute;
* `Wave.decodeTable`: the waves at the start of the wave region.
-/

namespace GpuDebug

/-- A live wave. -/
structure Wave where
  workGroup : Dim
  /-- The work-item of each lane. -/
  workItems : List Dim
  /-- Bit `i` is set while lane `i` executes. -/
  executing : UInt64
  /-- The process address at which the wave stands. -/
  pc : UInt64
  address : UInt64
  deriving DecidableEq, Repr, Inhabited

namespace Wave

/-- The number of lanes of a wave. -/
def lanes : Nat := 64

/-- The size of a wave record. -/
def size : Nat := 12 + lanes * 12 + 8 + 8 + 8

/-- The work-items of the lanes that execute, in lane order. -/
def activeItems (w : Wave) : List Dim :=
  ((w.workItems.take lanes).zipIdx.filter fun (_, lane) => w.executing.toNat.testBit lane).map
    (·.1)

/-- Whether some lane that executes has the given coordinates. -/
def hasActiveLane (w : Wave) (workGroup workItem : Dim) : Bool :=
  w.workGroup == workGroup && w.activeItems.contains workItem

/-- The work-item of the first lane that executes. -/
def firstActiveItem? (w : Wave) : Option Dim :=
  w.activeItems.head?

/-- The work-items of the 64 lanes, cut or filled up with zeros. -/
def laneItems (items : List Dim) : List Dim :=
  items.take lanes ++ List.replicate (lanes - items.length) Dim.zero

def encode (w : Wave) : Bytes :=
  w.workGroup.encode ++ (laneItems w.workItems).flatMap Dim.encode ++ Wire.u64 w.executing ++
    Wire.u64 w.pc ++ Wire.u64 w.address

open Wire in
def decode : Decoder Wave := do
  let workGroup ← Dim.decode
  let workItems ← Cursor.times Dim.decode lanes
  let executing ← Cursor.u64
  let pc ← Cursor.u64
  let address ← Cursor.u64
  return ⟨workGroup, workItems, executing, pc, address⟩

/-- The first `count` waves of a wave region. -/
def decodeTable (bytes : Bytes) (count : Nat) : Except Error (List Wave) :=
  Wire.Decoder.decode (Wire.Cursor.times decode count) bytes

/-- Whether a lane of some wave executes at the given coordinates. -/
def isActive (waves : List Wave) (workGroup workItem : Dim) : Bool :=
  waves.any (·.hasActiveLane workGroup workItem)

end Wave

end GpuDebug
