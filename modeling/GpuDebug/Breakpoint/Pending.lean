import GpuDebug.Breakpoint.Request

/-!
# Pending requests

Requests wait in a fixed number of slots until the agent, and for source lines the debug
information, can take them. A slot keeps its request until it is taken out; new requests go to
the lowest free slot.

* `Pending.push`, `Pending.take`, `Pending.remove`, `Pending.clear`: the operations;
* `Pending.requests`, `Pending.readySlots`: the requests that wait, in slot order;
* `Pending.live`: the count of buffered requests, kept by the operations.

A request without a target occupies no slot, though it is counted as buffered.
-/

namespace GpuDebug

/-- The slots; `none` marks a free one. -/
structure Pending where
  slots : List (Option Request)
  /-- How many requests were buffered and not yet removed. -/
  live : Nat
  deriving DecidableEq, Repr

namespace Pending

def ofCapacity (capacity : Nat) : Pending :=
  ⟨List.replicate capacity none, 0⟩

def capacity (p : Pending) : Nat :=
  p.slots.length

/-- Whether nothing is counted as buffered. -/
def isEmpty (p : Pending) : Bool :=
  p.live == 0

/-- The waiting requests, in slot order. -/
def requests (p : Pending) : List Request :=
  p.slots.filterMap id

/-- The content of a slot, if it exists and is not free. -/
def get? (p : Pending) (slot : Nat) : Option Request :=
  p.slots[slot]?.join

/-- Whether a slot holds a request for the same breakpoint and target. -/
def isDuplicate (r : Request) : Option Request → Bool
  | some s => s.number == r.number && s.sameTarget r
  | none => false

/-- Buffers a request and gives its slot. Buffering one breakpoint twice for the same target
changes nothing. -/
def push (p : Pending) (r : Request) : Except Error (Nat × Pending) :=
  match p.slots.findIdx? (isDuplicate r) with
  | some slot => .ok (slot, p)
  | none =>
    match p.slots.findIdx? (·.isNone) with
    | none => .error (.cacheFull p.capacity)
    | some slot =>
      let entry := if r.isUnknown then none else some r
      .ok (slot, ⟨p.slots.set slot entry, p.live + 1⟩)

/-- The slots whose request is ready, in ascending order. -/
def readySlots (p : Pending) (ready : Request → Bool) : List Nat :=
  p.slots.zipIdx.filterMap fun (entry, slot) =>
    if entry.any ready then some slot else none

/-- Takes the request out of a slot. -/
def take (p : Pending) (slot : Nat) : Option Request × Pending :=
  match p.get? slot with
  | some r => (some r, ⟨p.slots.set slot none, p.live - 1⟩)
  | none => (none, p)

/-- Whether a slot holds a request of the given number. -/
def hasNumber (number : Int32) : Option Request → Bool
  | some s => s.number == number
  | none => false

/-- Drops the first request of a breakpoint, and says whether there was one. -/
def remove (p : Pending) (number : Int32) : Bool × Pending :=
  match p.slots.findIdx? (hasNumber number) with
  | some slot => (true, ⟨p.slots.set slot none, p.live - 1⟩)
  | none => (false, p)

/-- Frees all slots. -/
def clear (p : Pending) : Pending :=
  ofCapacity p.capacity

end Pending

end GpuDebug
