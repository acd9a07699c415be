import GpuCluster.Text.Blank

/-!
# Devices

The description of a device is fixed when the device is discovered.
-/

namespace GpuCluster

abbrev DeviceId := String

inductive Vendor where
  | nvidia
  | amd
  | intel
  | apple
  | qualcomm
  | unknown
  deriving DecidableEq, Repr

namespace Vendor

/-- The names in messages. -/
def names : List (String × Vendor) :=
  [("nvidia", nvidia), ("amd", amd), ("intel", intel), ("apple", apple), ("qualcomm", qualcomm),
   ("unknown", unknown)]

def name : Vendor → String
  | nvidia => "nvidia"
  | amd => "amd"
  | intel => "intel"
  | apple => "apple"
  | qualcomm => "qualcomm"
  | unknown => "unknown"

/-- The name for a reader. -/
def title : Vendor → String
  | nvidia => "NVIDIA"
  | amd => "AMD"
  | intel => "Intel"
  | apple => "Apple"
  | qualcomm => "Qualcomm"
  | unknown => "Unknown"

theorem lookup_name (v : Vendor) : names.lookup v.name = some v := by
  cases v <;> rfl

end Vendor

/-- Form factors, each with a thermal calibration of its own. -/
inductive DeviceClass where
  | datacenter
  | desktop
  | mobile
  | integrated
  deriving DecidableEq, Repr

namespace DeviceClass

def names : List (String × DeviceClass) :=
  [("datacenter", datacenter), ("desktop", desktop), ("mobile", mobile),
   ("integrated", integrated)]

def name : DeviceClass → String
  | datacenter => "datacenter"
  | desktop => "desktop"
  | mobile => "mobile"
  | integrated => "integrated"

theorem lookup_name (c : DeviceClass) : names.lookup c.name = some c := by
  cases c <;> rfl

end DeviceClass

/-- Number formats that a device can compute in. -/
inductive Precision where
  | fp64
  | fp32
  | bf16
  | fp16
  | int8
  | int4
  deriving DecidableEq, Repr

namespace Precision

/-- From the widest to the narrowest. -/
def all : List Precision := [fp64, fp32, bf16, fp16, int8, int4]

def name : Precision → String
  | fp64 => "fp64"
  | fp32 => "fp32"
  | bf16 => "bf16"
  | fp16 => "fp16"
  | int8 => "int8"
  | int4 => "int4"

def names : List (String × Precision) :=
  all.map fun p => (p.name, p)

theorem lookup_name (p : Precision) : names.lookup p.name = some p := by
  cases p <;> rfl

end Precision

structure Device where
  id : DeviceId
  name : String
  vendor : Vendor
  architecture : String
  /-- Memory in bytes. -/
  memory : Nat
  computeUnits : Nat
  precisions : List Precision
  deviceClass : DeviceClass
  /-- Memory bandwidth in gigabytes per second. -/
  bandwidth : Float
  /-- The host or node that the device belongs to. -/
  group : Option String

/-- What is wrong with a description. -/
inductive DeviceFault where
  | blankId
  | noMemory (id : DeviceId)
  | bandwidth (id : DeviceId) (value : Float)

namespace Device

def supports (d : Device) (p : Precision) : Bool :=
  p ∈ d.precisions

/-- The first fault of a description, in the order id, memory, bandwidth. -/
def fault? (d : Device) : Option DeviceFault :=
  if Text.allBlank d.id then some .blankId
  else if d.memory = 0 then some (.noMemory d.id)
  else if !d.bandwidth.isFinite || d.bandwidth < 0 then some (.bandwidth d.id d.bandwidth)
  else none

/-- Equal descriptions; bandwidths are compared as numbers. -/
def same (d e : Device) : Bool :=
  d.id = e.id && d.name = e.name && d.vendor = e.vendor && d.architecture = e.architecture &&
    d.memory = e.memory && d.computeUnits = e.computeUnits && d.precisions = e.precisions &&
    d.deviceClass = e.deviceClass && d.bandwidth == e.bandwidth && d.group = e.group

end Device

end GpuCluster
