import GpuCluster.Device
import GpuCluster.Json.Record

/-!
# Devices in JSON

The last three fields of a description may be left out: a device is then a desktop device of unknown
bandwidth that belongs to no group.
-/

namespace GpuCluster

open Json

namespace Vendor

def toJson (v : Vendor) : Json := ofText v.name

def ofJson? : Json → Option Vendor := oneOf? names

end Vendor

namespace DeviceClass

def toJson (c : DeviceClass) : Json := ofText c.name

def ofJson? : Json → Option DeviceClass := oneOf? names

end DeviceClass

namespace Precision

def toJson (p : Precision) : Json := ofText p.name

def ofJson? : Json → Option Precision := oneOf? names

end Precision

namespace Device

def fields (d : Device) : List (String × Json) :=
  [("id", ofText d.id),
   ("name", ofText d.name),
   ("vendor", d.vendor.toJson),
   ("architecture", ofText d.architecture),
   ("memory_total", ofNat d.memory),
   ("compute_units", ofNat d.computeUnits),
   ("precisions", .array (d.precisions.map Precision.toJson)),
   ("device_class", d.deviceClass.toJson),
   ("memory_bandwidth_gbps", ofFloat d.bandwidth),
   ("topology_group", ofOption ofText d.group)]

def toJson (d : Device) : Json := .object d.fields

def ofJson? (j : Json) : Option Device := do
  let r ← Record.read? ["id", "name", "vendor", "architecture", "memory_total", "compute_units",
    "precisions", "device_class", "memory_bandwidth_gbps", "topology_group"] j
  let id ← r.required? "id" text?
  let name ← r.required? "name" text?
  let vendor ← r.required? "vendor" Vendor.ofJson?
  let architecture ← r.required? "architecture" text?
  let memory ← r.required? "memory_total" (natOfWidth? 64)
  let computeUnits ← r.required? "compute_units" (natOfWidth? 32)
  let precisions ← r.required? "precisions" (list? Precision.ofJson?)
  let deviceClass ← r.withDefault? "device_class" DeviceClass.ofJson? .desktop
  let bandwidth ← r.withDefault? "memory_bandwidth_gbps" float? 0
  let group ← r.withDefault? "topology_group" (nullable? text?) none
  some { id, name, vendor, architecture, memory, computeUnits, precisions, deviceClass, bandwidth,
         group }

end Device

end GpuCluster
