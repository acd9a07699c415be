import Mathlib
import GpuCluster.Proofs.Wire.Content
import GpuCluster.Wire.Envelope

/-!
# Envelopes that are encoded are decoded again

An envelope of the known version whose message has no fault is decoded from its own text, and so is
whatever was decoded from any text. An envelope of another version is refused for its version, whatever
else the text holds.
-/

namespace GpuCluster.Wire

open Json

namespace Registration

variable {r : Registration} {j : Json}

theorem ofJson?_toJson (hport : r.listensOn < Nat.pow 2 16) (hfits : r.device.Fits)
    (hbandwidth : ReadsBack r.device.bandwidth) : ofJson? r.toJson = some r := by
  rw [ofJson?, toJson, @Record.read?_object ["hostname", "port", "device"] _ rfl (by decide) (by decide)]
  simp only [Option.bind_eq_bind, Option.bind_some, Record.required?, Record.value?, List.lookup_cons,
    String.reduceBEq, text?_ofText, natOfWidth?_ofNat (by decide : 16 ≤ 64) hport,
    Device.ofJson?_toJson hfits hbandwidth]

theorem isWritten_toJson (hbandwidth : ReadsBack r.device.bandwidth) : r.toJson.IsWritten := by
  refine @Record.isWritten_object ["hostname", "port", "device"] _ rfl (by decide) ?_
  simp only [List.map_cons, List.map_nil, List.forall_mem_cons]
  exact ⟨isWritten_ofText _, isWritten_ofNat _, Device.isWritten_toJson hbandwidth, List.forall_mem_nil _⟩

theorem fits_of_ofJson? (h : ofJson? j = some r) : r.listensOn < Nat.pow 2 16 ∧ r.device.Fits := by
  simp only [ofJson?, Record.required?, Option.bind_eq_bind, Option.bind_eq_some_iff] at h
  obtain ⟨_, -, _, -, _, ⟨_, -, hport⟩, _, ⟨_, -, hdevice⟩, h⟩ := h
  rw [← Option.some.inj h]
  exact ⟨lt_of_natOfWidth? hport, Device.fits_of_ofJson? hdevice⟩

end Registration

namespace Heartbeat

variable {h : Heartbeat} {j : Json}

theorem ofJson?_toJson (hfits : h.sample.Fits) (hback : h.sample.ReadsBack) :
    ofJson? h.toJson = some h := by
  rw [ofJson?, toJson,
    @Record.read?_object ["device_id", "metrics", "is_available", "error_message"] _ rfl (by decide)
      (by decide)]
  simp only [Option.bind_eq_bind, Option.bind_some, Record.required?, Record.withDefault?, Record.value?,
    List.lookup_cons, String.reduceBEq, text?_ofText, Sample.ofJson?_toJson hfits hback, bool?,
    nullable?_ofOption]

theorem isWritten_toJson (hback : h.sample.ReadsBack) : h.toJson.IsWritten := by
  refine @Record.isWritten_object ["device_id", "metrics", "is_available", "error_message"] _ rfl
    (by decide) ?_
  simp only [List.map_cons, List.map_nil, List.forall_mem_cons]
  exact ⟨isWritten_ofText _, Sample.isWritten_toJson hback, isWritten_bool _, isWritten_ofOption _,
    List.forall_mem_nil _⟩

theorem fits_of_ofJson? (hread : ofJson? j = some h) : h.sample.Fits := by
  simp only [ofJson?, Record.required?, Option.bind_eq_bind, Option.bind_eq_some_iff] at hread
  obtain ⟨_, -, _, -, _, ⟨_, -, hsample⟩, _, -, _, -, hread⟩ := hread
  rw [← Option.some.inj hread]
  exact Sample.fits_of_ofJson? hsample

end Heartbeat

namespace Message

/-- The numbers of a message fit the widths at which they are read. -/
def Fits : Message → Prop
  | registration r => r.listensOn < Nat.pow 2 16 ∧ r.device.Fits
  | heartbeat h => h.sample.Fits

/-- The doubles in a message. -/
def doubles : Message → List Float
  | registration r => [r.device.bandwidth]
  | heartbeat h => [h.sample.utilization, h.sample.power, h.sample.temperature]

/-- The moments in a message. -/
def moments : Message → List Timestamp
  | registration _ => []
  | heartbeat h => [h.sample.takenAt]

/-- A host name that is not blank and a device without fault, or the sample, without fault, of the device
that the message is about. -/
def IsValid : Message → Prop
  | registration r => Text.allBlank r.hostname = false ∧ r.device.fault? = none
  | heartbeat h => h.deviceId = h.sample.deviceId ∧ h.sample.fault? = none

variable {m : Message} {j : Json}

theorem fault?_eq_none_iff : m.fault? = none ↔ m.IsValid := by
  cases m with
  | registration r => cases h : Text.allBlank r.hostname <;> simp [fault?, IsValid, h]
  | heartbeat h => by_cases hid : h.deviceId = h.sample.deviceId <;> simp [fault?, IsValid, hid]

theorem isFinite_of_isValid (h : m.IsValid) : ∀ x ∈ m.doubles, x.isFinite = true := by
  cases m with
  | registration r => exact List.forall_mem_singleton.mpr (Device.isFinite_of_fault?_eq_none h.2)
  | heartbeat heartbeat =>
    obtain ⟨hutilization, hpower, htemperature⟩ := Sample.isFinite_of_fault?_eq_none h.2
    simp only [doubles, List.forall_mem_cons]
    exact ⟨hutilization, hpower, htemperature, List.forall_mem_nil _⟩

theorem readsBack_sample {h : Heartbeat} (hdoubles : ∀ x ∈ (heartbeat h).doubles, Json.ReadsBack x)
    (hmoments : ∀ t ∈ (heartbeat h).moments, t.ReadsBack) : h.sample.ReadsBack := by
  simp only [doubles, List.forall_mem_cons] at hdoubles
  obtain ⟨hutilization, hpower, htemperature, -⟩ := hdoubles
  exact ⟨List.forall_mem_singleton.mp hmoments, hutilization, hpower, htemperature⟩

theorem ofJson?_toJson (hfits : m.Fits) (hdoubles : ∀ x ∈ m.doubles, Json.ReadsBack x)
    (hmoments : ∀ t ∈ m.moments, t.ReadsBack) (outer : Nat) : ofJson? outer m.toJson = some m := by
  cases m with
  | registration r =>
    have hpayload : Registration.ofJson? r.toJson = some r :=
      Registration.ofJson?_toJson hfits.1 hfits.2 (List.forall_mem_singleton.mp hdoubles)
    rw [ofJson?, toJson, @Record.read?_object ["type", "payload"] _ rfl (by decide) (by decide)]
    simp only [Option.bind_eq_bind, Option.bind_some, ofPayload?, constant?_ofText, if_true, hpayload,
      Option.map_some]
  | heartbeat h =>
    have hpayload : Heartbeat.ofJson? h.toJson = some h :=
      Heartbeat.ofJson?_toJson hfits (readsBack_sample hdoubles hmoments)
    rw [ofJson?, toJson, @Record.read?_object ["type", "payload"] _ rfl (by decide) (by decide)]
    simp only [Option.bind_eq_bind, Option.bind_some, ofPayload?, constant?_ofText, String.reduceEq,
      if_false, if_true, hpayload, Option.map_some]

theorem isWritten_toJson (hdoubles : ∀ x ∈ m.doubles, Json.ReadsBack x)
    (hmoments : ∀ t ∈ m.moments, t.ReadsBack) : m.toJson.IsWritten := by
  cases m with
  | registration r =>
    refine @Record.isWritten_object ["type", "payload"] _ rfl (by decide) ?_
    simp only [List.map_cons, List.map_nil, List.forall_mem_cons]
    exact ⟨isWritten_ofText _,
      Registration.isWritten_toJson (List.forall_mem_singleton.mp hdoubles), List.forall_mem_nil _⟩
  | heartbeat h =>
    refine @Record.isWritten_object ["type", "payload"] _ rfl (by decide) ?_
    simp only [List.map_cons, List.map_nil, List.forall_mem_cons]
    exact ⟨isWritten_ofText _,
      Heartbeat.isWritten_toJson (readsBack_sample hdoubles hmoments), List.forall_mem_nil _⟩

theorem fits_of_ofPayload? {type payload : Json} (h : ofPayload? type payload = some m) : m.Fits := by
  simp only [ofPayload?, Option.bind_eq_bind, Option.bind_eq_some_iff] at h
  obtain ⟨name, -, h⟩ := h
  split at h
  · obtain ⟨r, hr, rfl⟩ := Option.map_eq_some_iff.mp h
    exact Registration.fits_of_ofJson? hr
  · split at h
    · obtain ⟨heartbeat, hheartbeat, rfl⟩ := Option.map_eq_some_iff.mp h
      exact Heartbeat.fits_of_ofJson? hheartbeat
    · cases h

theorem fits_of_ofJson? {outer : Nat} (h : ofJson? outer j = some m) : m.Fits := by
  simp only [ofJson?, Option.bind_eq_bind, Option.bind_eq_some_iff] at h
  obtain ⟨r, -, h⟩ := h
  split at h
  · exact fits_of_ofPayload? h
  · obtain ⟨payload, -, h⟩ := Option.bind_eq_some_iff.mp h
    exact fits_of_ofPayload? h
  · cases h

end Message

namespace Envelope

variable {e : Envelope} {j : Json} {version : Nat}

/-- The doubles of an envelope, as far as they are finite, and its moments read back from their texts. -/
structure ReadsBack (e : Envelope) : Prop where
  doubles : ∀ x ∈ e.message.doubles, x.isFinite = true → Json.ReadsBack x
  moments : ∀ t ∈ e.sentAt :: e.message.moments, t.ReadsBack

theorem ReadsBack.doubles_of_isValid (hback : e.ReadsBack) (hvalid : e.message.IsValid) :
    ∀ x ∈ e.message.doubles, Json.ReadsBack x := fun x hx =>
  hback.doubles x hx (Message.isFinite_of_isValid hvalid x hx)

/-- The version that an object claims is the value of its one member of that name. -/
theorem version?_of_single {before after : List (String × Json)} {key : String} {value : Json}
    (hkey : text? (.string key) = some "version")
    (hothers : ∀ m ∈ before ++ after, ∃ name, text? (.string m.1) = some name ∧ name ≠ "version") :
    version? (.object (before ++ (key, value) :: after)) = value.natOfWidth? 32 := by
  rw [version?, Record.read?, Record.known?_of_single hkey hothers]
  simp only [Option.bind_eq_bind, Option.map_some, Option.bind_some, Record.required?, Record.value?,
    List.lookup_cons_self]

theorem version?_toJson (hversion : e.version < Nat.pow 2 32) : version? e.toJson = some e.version := by
  have hothers : ∀ m ∈ [] ++ [("sent_at", e.sentAt.toJson), ("message", e.message.toJson)],
      ∃ name, text? (.string m.1) = some name ∧ name ≠ "version" := by
    simp only [List.nil_append, List.forall_mem_cons]
    exact ⟨⟨_, IsPlain.text? (by decide), by decide⟩, ⟨_, IsPlain.text? (by decide), by decide⟩, List.forall_mem_nil _⟩
  exact (version?_of_single (IsPlain.text? (by decide)) hothers).trans
    (natOfWidth?_ofNat (by decide) hversion)

theorem value?_sentAt_of_short {r : Record} {items : List Json} (hlength : items.length ≤ ["version"].length)
    (h : Record.read? ["version", "sent_at", "message"] (.array items) = some r) :
    r.value? "sent_at" = none := by
  rw [Record.read?] at h
  split at h
  · rw [← Option.some.inj h]
    cases items with
    | nil => rfl
    | cons item items =>
      obtain rfl := List.length_eq_zero_iff.mp (Nat.le_zero.mp (Nat.le_of_succ_le_succ hlength))
      rfl
  · cases h

/-- The version that was looked at is the version of the envelope. -/
theorem version_of_ofJson? (hversion : version? j = some version) (h : ofJson? j = some e) :
    e.version = version := by
  simp only [version?, Record.required?, Option.bind_eq_bind, Option.bind_eq_some_iff] at hversion
  obtain ⟨probe, hprobe, value, hvalue, hversion⟩ := hversion
  simp only [ofJson?, Record.required?, Option.bind_eq_bind, Option.bind_eq_some_iff] at h
  obtain ⟨r, hr, _, ⟨value', hvalue', hversion'⟩, _, ⟨_, hsentAt, -⟩, _, -, h⟩ := h
  rw [← Option.some.inj h]
  refine Option.some.inj (hversion'.symm.trans (Eq.trans ?_ hversion))
  congr 1
  cases j with
  | object members =>
    obtain ⟨given, hgiven, rfl⟩ := Option.map_eq_some_iff.mp hprobe
    obtain ⟨given', hgiven', rfl⟩ := Option.map_eq_some_iff.mp hr
    have hsame := Record.lookup_known?_congr hgiven hgiven' (by decide : "version" ∈ _) (by decide)
    exact Option.some.inj (hvalue'.symm.trans (hsame.symm.trans hvalue))
  | array items =>
    rw [Record.read?] at hprobe
    split at hprobe
    -- An array that is short enough to be read for the version alone has no place for the moment.
    · rename_i hlength
      rw [value?_sentAt_of_short hlength hr] at hsentAt
      cases hsentAt
    · cases hprobe
  | _ => cases hprobe

theorem ofJson?_toJson (hversion : e.version < Nat.pow 2 32) (hvalid : e.message.IsValid)
    (hfits : e.message.Fits) (hback : e.ReadsBack) : ofJson? e.toJson = some e := by
  obtain ⟨hsentAt, hmoments⟩ := List.forall_mem_cons.mp hback.moments
  rw [ofJson?, toJson, @Record.read?_object ["version", "sent_at", "message"] _ rfl (by decide)
    (by decide)]
  simp only [Option.bind_eq_bind, Option.bind_some, Record.required?, Record.value?, List.lookup_cons,
    String.reduceBEq, natOfWidth?_ofNat (by decide : 32 ≤ 64) hversion, Timestamp.ofJson?_toJson hsentAt,
    Message.ofJson?_toJson hfits (hback.doubles_of_isValid hvalid) hmoments]

theorem isWritten_toJson (hvalid : e.message.IsValid) (hback : e.ReadsBack) : e.toJson.IsWritten := by
  obtain ⟨-, hmoments⟩ := List.forall_mem_cons.mp hback.moments
  refine @Record.isWritten_object ["version", "sent_at", "message"] _ rfl (by decide) ?_
  simp only [List.map_cons, List.map_nil, List.forall_mem_cons]
  exact ⟨isWritten_ofNat _, isWritten_ofText _,
    Message.isWritten_toJson (hback.doubles_of_isValid hvalid) hmoments, List.forall_mem_nil _⟩

/-- An envelope that can be sent is decoded from its own text. -/
theorem decode_encode (hversion : e.version = schemaVersion) (hvalid : e.message.IsValid)
    (hfits : e.message.Fits) (hback : e.ReadsBack) : decode (encode e) = .ok e := by
  have hbound : e.version < Nat.pow 2 32 := hversion ▸ (by decide : schemaVersion < Nat.pow 2 32)
  have hfault : e.message.fault? = none := Message.fault?_eq_none_iff.mpr hvalid
  rw [decode, encode, parse?_compact (isWritten_toJson hvalid hback)]
  simp only [version?_toJson hbound, ne_eq, hversion, not_true_eq_false, if_false,
    ofJson?_toJson hbound hvalid hfits hback, hfault]

/-- All that a text must be to be decoded. -/
theorem of_decode_eq_ok {text : String} (h : decode text = .ok e) :
    ∃ j, parse? text = some j ∧ version? j = some schemaVersion ∧ ofJson? j = some e ∧
      e.message.fault? = none := by
  rw [decode] at h
  split at h
  · cases h
  rename_i j hparse
  split at h
  · cases h
  rename_i version hversion
  split at h
  · cases h
  rename_i hsame
  obtain rfl := not_ne_iff.mp hsame
  split at h
  · cases h
  rename_i e' hread
  split at h
  · cases h
  rename_i hfault
  obtain rfl := Except.ok.inj h
  exact ⟨j, hparse, hversion, hread, hfault⟩

theorem fits_of_ofJson? (h : ofJson? j = some e) : e.message.Fits := by
  simp only [ofJson?, Record.required?, Option.bind_eq_bind, Option.bind_eq_some_iff] at h
  obtain ⟨_, -, _, -, _, -, _, ⟨_, -, hmessage⟩, h⟩ := h
  rw [← Option.some.inj h]
  exact Message.fits_of_ofJson? hmessage

/-- An envelope of this version without fault is decoded from its own text, and so is every envelope that
any text was decoded to. An object whose names are all texts, with one member `version` that is another
version, is refused for that version. -/
theorem round_trip :
    (∀ e : Envelope, e.version = schemaVersion → e.message.IsValid → e.message.Fits → e.ReadsBack →
      decode (encode e) = .ok e) ∧
    (∀ (text : String) (e : Envelope), decode text = .ok e →
      e.version = schemaVersion ∧ e.message.IsValid ∧ (e.ReadsBack → decode (encode e) = .ok e)) ∧
    ∀ (text : String) (before after : List (String × Json)) (key : String) (value : Json)
      (version : Nat),
      parse? text = some (.object (before ++ (key, value) :: after)) →
      text? (.string key) = some "version" →
      (∀ m ∈ before ++ after, ∃ name, text? (.string m.1) = some name ∧ name ≠ "version") →
      value.natOfWidth? 32 = some version → version ≠ schemaVersion →
      decode text = .error (.unsupportedSchema version) := by
  refine ⟨fun e => decode_encode, fun text e h => ?_, ?_⟩
  · obtain ⟨j, -, hversion, hread, hfault⟩ := of_decode_eq_ok h
    have hsame : e.version = schemaVersion := version_of_ofJson? hversion hread
    have hvalid : e.message.IsValid := Message.fault?_eq_none_iff.mp hfault
    exact ⟨hsame, hvalid, decode_encode hsame hvalid (fits_of_ofJson? hread)⟩
  · intro text before after key value version hparse hkey hothers hvalue hother
    have hversion := (version?_of_single hkey hothers).trans hvalue
    rw [decode, hparse]
    simp only [hversion, if_pos hother]

theorem round_trip_of_heartbeat :
    let s : Sample Float := ⟨"gpu", ⟨1700000000, 500000000⟩, 4, 16, 12.5, 250, -0.0, 1800⟩
    let e : Envelope := ⟨1, ⟨1700000001, 0⟩, .heartbeat ⟨"gpu", s, true, some "fan \"2\" stopped"⟩⟩
    let text := "\x7b\"message\":[],\"\\u0076ersion\":7\x7d"
    e.message.IsValid ∧ e.message.Fits ∧ e.ReadsBack ∧ decode (encode e) = .ok e ∧
      decode text = .error (.unsupportedSchema 7) := by
  intro s e text
  have hvalid : e.message.IsValid := ⟨rfl, by decide +kernel⟩
  have hfits : e.message.Fits := ⟨by decide, by decide, by decide⟩
  have hdoubles : ∀ x ∈ e.message.doubles, Json.ReadsBack x := by
    simp only [Message.doubles, e, s, List.forall_mem_cons]
    exact ⟨by decide +kernel, by decide +kernel, by decide +kernel, List.forall_mem_nil _⟩
  have hmoments : ∀ t ∈ e.sentAt :: e.message.moments, t.ReadsBack := by
    simp only [Message.moments, e, s, List.forall_mem_cons]
    exact ⟨by decide +kernel, by decide +kernel, List.forall_mem_nil _⟩
  have hback : e.ReadsBack := ⟨fun x hx _ => hdoubles x hx, hmoments⟩
  obtain ⟨hround, hagain, hrefused⟩ := round_trip
  obtain ⟨-, -, hencoded⟩ := hagain (encode e) e (hround e rfl hvalid hfits hback)
  refine ⟨hvalid, hfits, hback, hencoded hback, ?_⟩
  refine hrefused text [("message", .array [])] [] "\\u0076ersion" (.number "7") 7 (by cbv)
    (by decide +kernel) ?_ (by decide +kernel) (by decide)
  exact List.forall_mem_singleton.mpr ⟨"message", by decide +kernel, by decide⟩

/-- A name that is half of a surrogate pair makes an object unreadable, whatever its version. -/
theorem decode_unpaired_surrogate :
    let text := "\x7b\"\\ud800\":0,\"version\":7\x7d"
    parse? text = some (.object [("\\ud800", .number "0"), ("version", .number "7")]) ∧
      text? (.string "\\ud800") ≠ some "version" ∧ text? (.string "version") = some "version" ∧
      (Json.number "7").natOfWidth? 32 = some 7 ∧ 7 ≠ schemaVersion ∧
      decode text = .error .unreadable := by
  intro text
  have hparse : parse? text = some (.object [("\\ud800", .number "0"), ("version", .number "7")]) := by
    cbv
  have hname : text? (.string "\\ud800") = none := by decide +kernel
  refine ⟨hparse, by decide +kernel, by decide +kernel, by decide +kernel, by decide, ?_⟩
  rw [decode, hparse]
  simp only [version?, Record.read?, Record.known?, hname, Option.bind_eq_bind, Option.bind_none,
    Option.map_none]

end Envelope

end GpuCluster.Wire
