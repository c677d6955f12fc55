import GpuDebug.Wire.Cursor

/-!
# Devices

* `Device`: what the agent reports of one device, and its record of 104 bytes;
* `DeviceTable`: the devices last reported.
-/

namespace GpuDebug

/-- One device. -/
structure Device where
  name : String
  chip : UInt64
  shaderEngines : UInt32
  computeUnits : UInt32
  simdsPerUnit : UInt32
  wavesPerUnit : UInt32
  /-- In MHz. -/
  engineClock : UInt32
  /-- In MHz. -/
  memoryClock : UInt32
  /-- Set while a dispatch runs on the device. -/
  active : Bool
  deriving DecidableEq, Repr, Inhabited

namespace Device

/-- The width of the name field. -/
def nameWidth : Nat := 64

/-- The size of a device record. -/
def size : Nat := nameWidth + 8 + 7 * 4 + 4

/-- The most devices that one notification carries. -/
def most : Nat := 16

/-- The most waves that the device holds at one time. -/
def maxWaves (d : Device) : Nat :=
  d.computeUnits.toNat * d.wavesPerUnit.toNat

def encode (d : Device) : Bytes :=
  Wire.text d.name nameWidth ++ Wire.u64 d.chip ++ Wire.u32 d.shaderEngines ++
    Wire.u32 d.computeUnits ++ Wire.u32 d.simdsPerUnit ++ Wire.u32 d.wavesPerUnit ++
    Wire.u32 d.engineClock ++ Wire.u32 d.memoryClock ++ Wire.flag d.active ++ Wire.gap 4

open Wire in
def decode : Decoder Device := do
  let name ← Cursor.text nameWidth
  let chip ← Cursor.u64
  let shaderEngines ← Cursor.u32
  let computeUnits ← Cursor.u32
  let simdsPerUnit ← Cursor.u32
  let wavesPerUnit ← Cursor.u32
  let engineClock ← Cursor.u32
  let memoryClock ← Cursor.u32
  let active ← Cursor.flag
  Cursor.skip 4
  return ⟨name, chip, shaderEngines, computeUnits, simdsPerUnit, wavesPerUnit, engineClock,
    memoryClock, active⟩

@[simp] theorem length_encode (d : Device) : d.encode.length = size := by
  simp [encode, size, nameWidth]

end Device

/-- The devices last reported, at most `Device.most` of them. -/
structure DeviceTable where
  devices : List Device
  deriving DecidableEq, Repr

namespace DeviceTable

def empty : DeviceTable := ⟨[]⟩

instance : Inhabited DeviceTable := ⟨empty⟩

/-- Replaces the table; devices past the limit are dropped. -/
def ofDevices (devices : List Device) : DeviceTable :=
  ⟨devices.take Device.most⟩

/-- No dispatch runs on any device. -/
def unsetActive (t : DeviceTable) : DeviceTable :=
  ⟨t.devices.map ({ · with active := false })⟩

/-- The first device on which a dispatch runs. -/
def activeDevice? (t : DeviceTable) : Option Device :=
  t.devices.find? (·.active)

end DeviceTable

end GpuDebug
