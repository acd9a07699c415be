import Mathlib
import GpuCluster.Proofs.Json.Record
import GpuCluster.Wire.Device
import GpuCluster.Wire.Sample

/-!
# Devices and samples that are written read back

Every field of a device and of a sample reads back by itself: texts and names always, integers when they
fit their width, and doubles and moments as far as their own texts read back.
-/

namespace GpuCluster

open Json Number

/-- The double reads back from its text. -/
def Json.ReadsBack (x : Float) : Prop := (ofFloat x).float? = some x

instance (x : Float) : Decidable (Json.ReadsBack x) :=
  inferInstanceAs (Decidable ((ofFloat x).float? = some x))

theorem Json.float?_ofFloat {x : Float} (h : ReadsBack x) : (ofFloat x).float? = some x := h

namespace Timestamp

/-- The moment reads back from its text. -/
def ReadsBack (t : Timestamp) : Prop := ofRfc3339? t.rfc3339 = some t

instance (t : Timestamp) : Decidable t.ReadsBack :=
  inferInstanceAs (Decidable (ofRfc3339? t.rfc3339 = some t))

theorem ofJson?_toJson {t : Timestamp} (h : t.ReadsBack) : ofJson? t.toJson = some t := by
  rw [ofJson?, toJson, text?_ofText, Option.bind_some, h]

end Timestamp

namespace Device

/-- The numbers of a device fit the widths at which they are read. -/
structure Fits (d : Device) : Prop where
  memory : d.memory < Nat.pow 2 64
  computeUnits : d.computeUnits < Nat.pow 2 32

variable {d : Device} {j : Json}

theorem names_fields (d : Device) : d.fields.map Prod.fst =
    ["id", "name", "vendor", "architecture", "memory_total", "compute_units", "precisions",
      "device_class", "memory_bandwidth_gbps", "topology_group"] := rfl

theorem ofJson?_toJson (hfits : d.Fits) (hbandwidth : ReadsBack d.bandwidth) :
    ofJson? d.toJson = some d := by
  have hvendor : Vendor.ofJson? d.vendor.toJson = some d.vendor := by
    rw [Vendor.ofJson?, Vendor.toJson, oneOf?_ofText, d.vendor.lookup_name]
  have hclass : DeviceClass.ofJson? d.deviceClass.toJson = some d.deviceClass := by
    rw [DeviceClass.ofJson?, DeviceClass.toJson, oneOf?_ofText, d.deviceClass.lookup_name]
  have hprecisions : list? Precision.ofJson? (.array (d.precisions.map Precision.toJson)) =
      some d.precisions := by
    refine list?_map (fun p => ?_) d.precisions
    rw [Precision.ofJson?, Precision.toJson, oneOf?_ofText, p.lookup_name]
  rw [ofJson?, toJson, Record.read?_object d.names_fields (by decide) (by decide)]
  simp only [Option.bind_eq_bind, Option.bind_some, Record.required?, Record.withDefault?, Record.value?,
    fields, List.lookup_cons, String.reduceBEq, text?_ofText, hvendor, hclass, hprecisions,
    natOfWidth?_ofNat (Nat.le_refl 64) hfits.memory,
    natOfWidth?_ofNat (by decide : 32 ≤ 64) hfits.computeUnits, float?_ofFloat hbandwidth,
    nullable?_ofOption]

theorem isWritten_toJson (hbandwidth : ReadsBack d.bandwidth) : d.toJson.IsWritten := by
  refine Record.isWritten_object d.names_fields (by decide) ?_
  simp only [fields, List.map_cons, List.map_nil, List.forall_mem_cons]
  refine ⟨isWritten_ofText _, isWritten_ofText _, isWritten_ofText _, isWritten_ofText _,
    isWritten_ofNat _, isWritten_ofNat _, isWritten_array ?_, isWritten_ofText _,
    isWritten_ofFloat hbandwidth, isWritten_ofOption _, List.forall_mem_nil _⟩
  intro item hitem
  obtain ⟨p, -, rfl⟩ := List.mem_map.mp hitem
  exact isWritten_ofText _

/-- A device that was read fits the widths at which it was read. -/
theorem fits_of_ofJson? (h : ofJson? j = some d) : d.Fits := by
  simp only [ofJson?, Record.required?, Option.bind_eq_bind, Option.bind_eq_some_iff] at h
  obtain ⟨_, -, _, -, _, -, _, -, _, -, _, ⟨_, -, hmemory⟩, _, ⟨_, -, hunits⟩, _, -, _, -, _, -, _, -,
    h⟩ := h
  rw [← Option.some.inj h]
  exact ⟨lt_of_natOfWidth? hmemory, lt_of_natOfWidth? hunits⟩

theorem isFinite_of_fault?_eq_none (h : d.fault? = none) : d.bandwidth.isFinite = true := by
  simp only [fault?, ite_eq_iff, reduceCtorEq, and_false, false_or, Bool.or_eq_true, not_or,
    Bool.not_eq_true', Bool.not_eq_false] at h
  obtain ⟨-, -, ⟨hfinite, -⟩, -⟩ := h
  exact hfinite

end Device

namespace Sample

/-- The numbers of a sample fit the widths at which they are read. -/
structure Fits (s : Sample Float) : Prop where
  used : -(Numeral.signedBound : Int) ≤ s.used ∧ s.used < Numeral.signedBound
  total : -(Numeral.signedBound : Int) ≤ s.total ∧ s.total < Numeral.signedBound
  clock : s.clock < Nat.pow 2 32

/-- The doubles and the moment of a sample read back from their texts. -/
structure ReadsBack (s : Sample Float) : Prop where
  takenAt : s.takenAt.ReadsBack
  utilization : Json.ReadsBack s.utilization
  power : Json.ReadsBack s.power
  temperature : Json.ReadsBack s.temperature

variable {s : Sample Float} {j : Json}

theorem names_fields (s : Sample Float) : s.fields.map Prod.fst =
    ["device_id", "timestamp", "memory_used_bytes", "memory_total_bytes", "utilization_pct",
      "power_watts", "temperature_c", "clock_mhz"] := rfl

theorem ofJson?_toJson (hfits : s.Fits) (hback : s.ReadsBack) : ofJson? s.toJson = some s := by
  rw [ofJson?, toJson, Record.read?_object s.names_fields (by decide) (by decide)]
  simp only [Option.bind_eq_bind, Option.bind_some, Record.required?, Record.value?,
    fields, List.lookup_cons, String.reduceBEq, text?_ofText, Timestamp.ofJson?_toJson hback.takenAt,
    int64?_ofInt hfits.used.1 hfits.used.2, int64?_ofInt hfits.total.1 hfits.total.2,
    float?_ofFloat hback.utilization, float?_ofFloat hback.power, float?_ofFloat hback.temperature,
    natOfWidth?_ofNat (by decide : 32 ≤ 64) hfits.clock]

theorem isWritten_toJson (hback : s.ReadsBack) : s.toJson.IsWritten := by
  refine Record.isWritten_object s.names_fields (by decide) ?_
  simp only [fields, List.map_cons, List.map_nil, List.forall_mem_cons]
  exact ⟨isWritten_ofText _, isWritten_ofText _, isWritten_ofInt _, isWritten_ofInt _,
    isWritten_ofFloat hback.utilization, isWritten_ofFloat hback.power,
    isWritten_ofFloat hback.temperature, isWritten_ofNat _, List.forall_mem_nil _⟩

/-- A sample that was read fits the widths at which it was read. -/
theorem fits_of_ofJson? (h : ofJson? j = some s) : s.Fits := by
  simp only [ofJson?, Record.required?, Option.bind_eq_bind, Option.bind_eq_some_iff] at h
  obtain ⟨_, -, _, -, _, -, _, ⟨_, -, hused⟩, _, ⟨_, -, htotal⟩, _, -, _, -, _, -, _, ⟨_, -, hclock⟩,
    h⟩ := h
  rw [← Option.some.inj h]
  exact ⟨between_of_int64? hused, between_of_int64? htotal, lt_of_natOfWidth? hclock⟩

theorem isFinite_of_fault?_eq_none (h : s.fault? = none) :
    s.utilization.isFinite = true ∧ s.power.isFinite = true ∧ s.temperature.isFinite = true := by
  simp only [fault?, ite_eq_iff, reduceCtorEq, and_false, false_or, Bool.or_eq_true, not_or,
    Bool.not_eq_true', Bool.not_eq_false] at h
  obtain ⟨⟨hutilization, -⟩, -, -, -, ⟨htemperature, -⟩, ⟨hpower, -⟩, -⟩ := h
  exact ⟨hutilization, hpower, htemperature⟩

end Sample

end GpuCluster
