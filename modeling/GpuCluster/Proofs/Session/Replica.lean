import Mathlib
import GpuCluster.Proofs.Session.Changes

/-!
# A replica of a session

A host knows the devices of another host by the messages that it receives from there. A registration
carries the description of a device, and a heartbeat all that is known of its state, so that the
messages about the devices of a session rebuild what the session answers. Only messages about the same
device must arrive in their order.
-/

namespace GpuCluster.Session

open Wire (Heartbeat Message Registration)

variable {s : Session} {id : DeviceId}

/-- What a session knows of a device, apart from where its host listens. -/
structure View where
  device : Device
  isAvailable : Bool
  lastError : Option String
  sample : Option (Sample Float)

def view? (s : Session) (id : DeviceId) : Option View :=
  (s.registry.get? id).map fun entry =>
    ⟨entry.device, entry.isAvailable, entry.lastError, s.collector.current? id⟩

theorem view?_eq_some {entry : RegisteredDevice} (h : s.registry.get? id = some entry) :
    s.view? id =
      some ⟨entry.device, entry.isAvailable, entry.lastError, s.collector.current? id⟩ := by
  rw [view?, h]
  rfl

theorem view?_eq_none_iff : s.view? id = none ↔ s.registry.get? id = none :=
  Option.map_eq_none_iff

/-! ## Messages about one device -/

/-- A message without fault that turns one view of its device into another. -/
inductive Tells : Option View → Message → Option View → Prop
  | registration {r : Registration} (hfault : (Message.registration r).fault? = none) :
      Tells none (.registration r) (some ⟨r.device, true, none, none⟩)
  | heartbeat {before : View} {h : Heartbeat} (hfault : (Message.heartbeat h).fault? = none) :
      Tells (some before) (.heartbeat h)
        (some ⟨before.device, h.isAvailable, h.lastError, some h.sample⟩)

inductive TellAll : Option View → List Message → Option View → Prop
  | nil (view : Option View) : TellAll view [] view
  | cons {before between after : Option View} {m : Message} {rest : List Message}
      (h : Tells before m between) (hrest : TellAll between rest after) :
      TellAll before (m :: rest) after

namespace TellAll

variable {before after : Option View} {m : Message} {rest : List Message}

theorem singleton (h : Tells before m after) : TellAll before [m] after := .cons h (.nil after)

theorem eq_of_nil (h : TellAll before [] after) : before = after := by
  cases h
  rfl

theorem of_cons (h : TellAll before (m :: rest) after) :
    ∃ between, Tells before m between ∧ TellAll between rest after := by
  cases h with
  | cons hfirst hrest => exact ⟨_, hfirst, hrest⟩

end TellAll

/-! ## What a message does -/

theorem announce_of_unknown {d : Device} (hfault : d.fault? = none)
    (hnone : s.registry.get? d.id = none) (endpoint : Option String) :
    s.announce d endpoint = (s.enter d endpoint, .ok true) := by
  rw [announce, hfault, hnone]

theorem view?_enter (h : Aligned s) {d : Device} (hnone : s.registry.get? d.id = none)
    (endpoint : Option String) :
    (s.enter d endpoint).view? id =
      if d.id = id then some ⟨d, true, none, none⟩ else s.view? id := by
  rw [view?, h.current?_enter hnone, enter, Table.get?_insert]
  split
  · rename_i heq
    rw [← heq, h.current?_eq_none hnone]
    rfl
  · rfl

theorem view?_of_heartbeat {heartbeat : Heartbeat} (heq : heartbeat.deviceId = heartbeat.sample.deviceId)
    (entry : RegisteredDevice) (slot : Telemetry.Slot) (e : Thermal.Executor) :
    view? { s.observed heartbeat.sample slot e with
        registry := s.registry.insert heartbeat.deviceId entry } id =
      if heartbeat.deviceId = id then
        some ⟨entry.device, entry.isAvailable, entry.lastError, some heartbeat.sample⟩
      else s.view? id := by
  rw [view?, current?_observed, Table.get?_insert, ← heq]
  split
  · rfl
  · rfl

/-- A message that tells a view of its device is taken in, and changes no other view. -/
theorem Coherent.ingest_of_tells (h : Coherent s) (hready : s.phase = .ready) {m : Message}
    {after : Option View} (htells : Tells (s.view? m.deviceId) m after) :
    (∃ transition, (s.ingest m).2 = .ok transition) ∧
      ∀ id, (s.ingest m).1.view? id = if m.deviceId = id then after else s.view? id := by
  generalize hbefore : s.view? m.deviceId = before at htells
  cases htells with
  | @registration r hfault =>
    obtain ⟨-, hdevice⟩ := registration_fault?_eq_none_iff.mp hfault
    have hnone : s.registry.get? r.device.id = none := view?_eq_none_iff.mp hbefore
    have hingest : s.ingest (.registration r) =
        (s.enter r.device (some r.endpoint), .ok none) := by
      refine (call_of_ready hready "ingest" _).trans ?_
      rw [hfault]
      dsimp only
      rw [announce_of_unknown hdevice hnone]
      rfl
    rw [hingest]
    exact ⟨⟨none, rfl⟩, fun id => view?_enter h.aligned hnone _⟩
  | @heartbeat before heartbeat hfault =>
    obtain ⟨entry, hentry, rfl⟩ := Option.map_eq_some_iff.mp hbefore
    obtain ⟨slot, e, happly⟩ := h.aligned.applyHeartbeat_eq hfault hentry
    have hingest : s.ingest (.heartbeat heartbeat) = s.applyHeartbeat heartbeat := by
      refine (call_of_ready hready "ingest" _).trans ?_
      rw [hfault]
    obtain ⟨heq, -⟩ := heartbeat_fault?_eq_none_iff.mp hfault
    rw [hingest, happly]
    exact ⟨⟨_, rfl⟩, fun id => view?_of_heartbeat heq _ slot e⟩

/-- Takes in messages one after the other; each has a result of its own. -/
def ingestAll (s : Session) :
    List Message → Session × List (Except Error (Option Thermal.Transition))
  | [] => (s, [])
  | m :: rest =>
    let (s, result) := s.ingest m
    let (s, results) := s.ingestAll rest
    (s, result :: results)

/-- Messages that tell a view of every device are all taken in, however those about different devices
are mixed, and leave the session with these views. -/
theorem Coherent.ingestAll_of_tellAll (h : Coherent s) (hready : s.phase = .ready)
    {messages : List Message} {after : DeviceId → Option View}
    (htell : ∀ id, TellAll (s.view? id) (messages.filter (·.deviceId = id)) (after id)) :
    (∀ result ∈ (s.ingestAll messages).2, ∃ transition, result = .ok transition) ∧
      Coherent (s.ingestAll messages).1 ∧ (s.ingestAll messages).1.phase = .ready ∧
      ∀ id, (s.ingestAll messages).1.view? id = after id := by
  induction messages generalizing s with
  | nil => exact ⟨List.forall_mem_nil _, h, hready, fun id => (htell id).eq_of_nil⟩
  | cons m rest ih =>
    -- The next message is the next one about its device, and is not among those about the others.
    have hfirst := htell m.deviceId
    rw [List.filter_cons_of_pos (by simp)] at hfirst
    obtain ⟨between, htells, hlater⟩ := hfirst.of_cons
    obtain ⟨hok, hviews⟩ := h.ingest_of_tells hready htells
    have hphase : (s.ingest m).1.phase = .ready := (SameHoldings.ingest h m).phase.trans hready
    obtain ⟨hresults, hend⟩ := ih (h.ingest m) hphase fun id => by
      rw [hviews]
      split
      · rename_i heq
        exact heq ▸ hlater
      · rename_i hne
        have hother := htell id
        rwa [List.filter_cons_of_neg (by simpa using hne)] at hother
    exact ⟨List.forall_mem_cons.mpr ⟨hok, hresults⟩, hend⟩

/-! ## The messages of a session -/

/-- The messages of a session about a device: its registration, and its heartbeat if there is one. -/
def tidings (s : Session) (id : DeviceId) (hostname : String) (listensOn : Nat) : List Message :=
  (s.registrationMessage id hostname listensOn).toOption.toList ++
    (s.heartbeatMessage id).toOption.toList

theorem tidings_of_unknown (hready : s.phase = .ready) (hnone : s.registry.get? id = none)
    (hostname : String) (listensOn : Nat) : s.tidings id hostname listensOn = [] := by
  have hdevice : s.device id = .error (.unknownDevice id) := by
    rw [device, queryDevice_of_ready hready, hnone]
  rw [tidings, registrationMessage, heartbeatMessage, hdevice]
  rfl

theorem tidings_of_known (hready : s.phase = .ready) {entry : RegisteredDevice}
    (hentry : s.registry.get? id = some entry) (hostname : String) (listensOn : Nat) :
    s.tidings id hostname listensOn =
      .registration ⟨hostname, listensOn, entry.device⟩ ::
        ((s.collector.current? id).map fun sample =>
          .heartbeat ⟨id, sample, entry.isAvailable, entry.lastError⟩).toList := by
  have hdevice : s.device id = .ok entry := by
    rw [device, queryDevice_of_ready hready, hentry]
  have hcurrent : s.currentSample id = .ok (s.collector.current? id) :=
    queryDevice_of_mem hready (Table.mem_of_get? hentry) ..
  rw [tidings, registrationMessage, heartbeatMessage, hdevice, hcurrent]
  cases s.collector.current? id <;> rfl

theorem Listed.deviceId_of_mem_tidings (h : Listed s) (hready : s.phase = .ready)
    {hostname : String} {listensOn : Nat} {m : Message} (hm : m ∈ s.tidings id hostname listensOn) :
    m.deviceId = id := by
  cases hentry : s.registry.get? id with
  | none =>
    rw [tidings_of_unknown hready hentry] at hm
    cases hm
  | some entry =>
    rw [tidings_of_known hready hentry] at hm
    rcases List.mem_cons.mp hm with rfl | hm
    · exact (h id entry hentry).device_id
    · obtain ⟨sample, -, rfl⟩ := Option.map_eq_some_iff.mp (Option.mem_toList.mp hm)
      rfl

/-- The messages about a device tell the view of it to those that do not know it. -/
theorem Listed.tellAll_tidings (h : Listed s) (hready : s.phase = .ready) {hostname : String}
    (hhostname : Text.allBlank hostname = false) (listensOn : Nat) :
    TellAll none (s.tidings id hostname listensOn) (s.view? id) := by
  cases hentry : s.registry.get? id with
  | none =>
    rw [tidings_of_unknown hready hentry, view?_eq_none_iff.mpr hentry]
    exact .nil none
  | some entry =>
    have hknown := h id entry hentry
    have hregistration : (Message.registration ⟨hostname, listensOn, entry.device⟩).fault? = none :=
      registration_fault?_eq_none_iff.mpr ⟨hhostname, hknown.device_fault⟩
    rw [tidings_of_known hready hentry, view?_eq_some hentry]
    cases hsample : s.collector.current? id with
    | none =>
      -- There is no heartbeat, but what it would tell is what a registration assumes.
      obtain ⟨havailable, herror⟩ := hknown.unsampled hsample
      rw [havailable, herror]
      exact .singleton (.registration hregistration)
    | some sample =>
      obtain ⟨hid, hfault⟩ := hknown.sample sample hsample
      have hheartbeat :
          (Message.heartbeat ⟨id, sample, entry.isAvailable, entry.lastError⟩).fault? = none :=
        heartbeat_fault?_eq_none_iff.mpr ⟨hid.symm, hfault⟩
      exact .cons (.registration hregistration) (.singleton (.heartbeat hheartbeat))

/-- The messages about each device are those of the session in their order. -/
def Conveys (s : Session) (hostname : DeviceId → String) (listensOn : DeviceId → Nat)
    (messages : List Message) : Prop :=
  ∀ id, messages.filter (·.deviceId = id) = s.tidings id (hostname id) (listensOn id)

theorem filter_flatMap_of_nodup {order : List DeviceId} (horder : order.Nodup)
    {about : DeviceId → List Message} (habout : ∀ id, ∀ m ∈ about id, m.deviceId = id)
    (id : DeviceId) :
    (order.flatMap about).filter (·.deviceId = id) = if id ∈ order then about id else [] := by
  induction order with
  | nil => rfl
  | cons first rest ih =>
    rw [List.nodup_cons] at horder
    rw [List.flatMap_cons, List.filter_append, ih horder.2]
    by_cases heq : first = id
    · subst heq
      have hself : (about first).filter (·.deviceId = first) = about first :=
        List.filter_eq_self.mpr fun m hm => decide_eq_true (habout first m hm)
      rw [hself, if_neg horder.1, if_pos List.mem_cons_self, List.append_nil]
    · have hnone : (about first).filter (·.deviceId = id) = [] := by
        refine List.filter_eq_nil_iff.mpr fun m hm hid => heq ?_
        exact (habout first m hm).symm.trans (of_decide_eq_true hid)
      rw [hnone, List.nil_append]
      simp only [List.mem_cons, Ne.symm heq, false_or]

/-- The devices may be told of in any order, one after the other. -/
theorem Listed.conveys_flatMap (h : Listed s) (hready : s.phase = .ready)
    {order : List DeviceId} (horder : order.Perm s.registry.keys) (hostname : DeviceId → String)
    (listensOn : DeviceId → Nat) :
    s.Conveys hostname listensOn
      (order.flatMap fun id => s.tidings id (hostname id) (listensOn id)) := by
  intro id
  rw [filter_flatMap_of_nodup (horder.nodup_iff.mpr s.registry.nodup_keys) fun id' m hm =>
    h.deviceId_of_mem_tidings hready hm]
  split
  · rfl
  · rename_i hid
    rw [horder.mem_iff, Table.mem_keys_iff] at hid
    exact (tidings_of_unknown hready (Table.get?_eq_none_iff.mpr hid) ..).symm

/-! ## What a replica answers -/

def unaddressed (entry : RegisteredDevice) : RegisteredDevice := { entry with endpoint := none }

/-- One session answers as the other about its devices and their current samples, apart from where
their hosts listen. -/
structure Replicates (t s : Session) : Prop where
  devices : t.devices.map (·.map unaddressed) = s.devices.map (·.map unaddressed)
  currentSample : ∀ id, t.currentSample id = s.currentSample id
  aggregate : t.aggregate = s.aggregate

theorem get?_registry_map (s : Session) (id : DeviceId) :
    (s.registry.map fun _ entry => unaddressed entry).get? id =
      (s.view? id).map fun view => ⟨view.device, none, view.isAvailable, view.lastError⟩ := by
  rw [Table.get?_map, view?, Option.map_map]
  rfl

theorem currentSample_eq (hready : s.phase = .ready) (id : DeviceId) :
    s.currentSample id =
      match s.view? id with
      | some view => .ok view.sample
      | none => .error (.unknownDevice id) := by
  rw [currentSample, queryDevice_of_ready hready, view?]
  cases s.registry.get? id <;> rfl

theorem Aligned.get?_slots_map (h : Aligned s) (id : DeviceId) :
    (s.collector.slots.map fun _ slot => slot.current).get? id =
      (s.view? id).map (·.sample) := by
  rw [Table.get?_map]
  cases hentry : s.registry.get? id with
  | none =>
    rw [h.slots_get?_eq_none hentry, view?_eq_none_iff.mpr hentry]
    rfl
  | some entry =>
    obtain ⟨slot, hslot⟩ := Table.mem_iff_get?.mp ((h.mem_slots id).mpr (Table.mem_of_get? hentry))
    rw [view?_eq_some hentry, Telemetry.Collector.current?, hslot]
    rfl

theorem currentAll_eq (collector : Telemetry.Collector) :
    collector.currentAll = (collector.slots.map fun _ slot => slot.current).values.reduceOption := by
  rw [Table.values_map, List.reduceOption, List.filterMap_map]
  rfl

theorem Replicates.of_views {t : Session} (ht : Aligned t) (hs : Aligned s)
    (htready : t.phase = .ready) (hready : s.phase = .ready)
    (hviews : ∀ id, t.view? id = s.view? id) : Replicates t s where
  devices := by
    have hregistry : (t.registry.map fun _ entry => unaddressed entry) =
        s.registry.map fun _ entry => unaddressed entry :=
      Table.ext_get? fun id => by rw [get?_registry_map, get?_registry_map, hviews]
    have hvalues := congrArg Table.values hregistry
    rw [Table.values_map, Table.values_map] at hvalues
    rw [Session.devices, Session.devices, query_of_ready htready, query_of_ready hready]
    exact congrArg Except.ok hvalues
  currentSample id := by rw [currentSample_eq htready, currentSample_eq hready, hviews]
  aggregate := by
    have hslots : (t.collector.slots.map fun _ slot => slot.current) =
        s.collector.slots.map fun _ slot => slot.current :=
      Table.ext_get? fun id => by rw [ht.get?_slots_map, hs.get?_slots_map, hviews]
    rw [Session.aggregate, Session.aggregate, query_of_ready htready, query_of_ready hready,
      Telemetry.Collector.aggregate, Telemetry.Collector.aggregate, currentAll_eq, currentAll_eq,
      hslots]

/--
A device without a sample is available and has no error. So whatever is known of the devices of a
session that is ready can be told by messages: a session of the same configuration takes in the
registration of every device and then its heartbeat, if there is one, and answers as the first one. The
messages about different devices may come in any order, one device after the other or mixed.
-/
theorem messages_rebuild_session (h : Reachable s) :
    (∀ id entry, s.registry.get? id = some entry → s.collector.current? id = none →
      entry.isAvailable = true ∧ entry.lastError = none) ∧
    (s.phase = .ready → ∀ (hostname : DeviceId → String) (listensOn : DeviceId → Nat),
      (∀ id, Text.allBlank (hostname id) = false) →
      (∀ order : List DeviceId, order.Perm s.registry.keys →
        s.Conveys hostname listensOn
          (order.flatMap fun id => s.tidings id (hostname id) (listensOn id))) ∧
      ∀ messages, s.Conveys hostname listensOn messages →
        let started := (new s.config).start
        let rebuilt := started.1.ingestAll messages
        started.2 = .ok () ∧ (∀ result ∈ rebuilt.2, ∃ transition, result = .ok transition) ∧
          Replicates rebuilt.1 s) := by
  refine ⟨fun id entry hentry => (h.listed id entry hentry).unsampled, ?_⟩
  intro hready hostname listensOn hhostname
  refine ⟨fun order horder => h.listed.conveys_flatMap hready horder hostname listensOn, ?_⟩
  intro messages hmessages started rebuilt
  have hphase : s.phase ≠ .uninitialized := by
    rw [hready]
    exact Phase.noConfusion
  have hstart : started = ({ new s.config with phase := .ready }, .ok ()) := by
    have hvalid := h.coherent.valid hphase
    simp only [started, start, new, hvalid]
  have hcoherent : Coherent started.1 := (Coherent.new s.config).start
  have hstarted : started.1.phase = .ready := by rw [hstart]
  have htell : ∀ id, TellAll (started.1.view? id) (messages.filter (·.deviceId = id)) (s.view? id) := by
    intro id
    have hunknown : started.1.view? id = none := by
      rw [hstart]
      rfl
    rw [hunknown, hmessages id]
    exact h.listed.tellAll_tidings hready (hhostname id) (listensOn id)
  obtain ⟨hresults, hrebuilt, hrebuiltReady, hviews⟩ :=
    hcoherent.ingestAll_of_tellAll hstarted htell
  refine ⟨by rw [hstart], hresults, ?_⟩
  exact .of_views hrebuilt.aligned h.coherent.aligned hrebuiltReady hready hviews

/-- Two devices, told of in the reverse order: one that a heartbeat has reported as lost, and one
without a sample. -/
theorem messages_rebuild_session_of_lost :
    let gpu (id : DeviceId) : Device := ⟨id, "A", .nvidia, "ada", 16, 4, [.fp32], .desktop, 900, none⟩
    let registered := (((new {}).perform .start).1.perform (.registerDevice (gpu "a"))).1.perform
      (.registerDevice (gpu "b"))
    let s := (registered.1.perform (.ingest
      (.heartbeat ⟨"a", ⟨"a", .epoch, 4, 16, 50, 200, 60, 1500⟩, false, some "lost"⟩))).1
    let messages := s.tidings "b" "host" 7000 ++ s.tidings "a" "host" 7000
    let rebuilt := (new s.config).start.1.ingestAll messages
    Reachable s ∧ s.phase = .ready ∧ rebuilt.2.length = 3 ∧
      (∀ result ∈ rebuilt.2, ∃ transition, result = .ok transition) ∧ Replicates rebuilt.1 s ∧
      ∀ entry, s.registry.get? "b" = some entry → entry.isAvailable = true := by
  intro gpu registered s messages rebuilt
  have hreachable : Reachable s :=
    ((((Reachable.new {}).perform .start).perform (.registerDevice _)).perform
      (.registerDevice _)).perform (.ingest _)
  have hready : s.phase = .ready := by decide +kernel
  have hkeys : s.registry.keys = ["a", "b"] := by decide +kernel
  obtain ⟨hunsampled, htold⟩ := messages_rebuild_session hreachable
  obtain ⟨horder, hrebuilt⟩ := htold hready (fun _ => "host") (fun _ => 7000) fun _ => by decide +kernel
  have hconveys := horder ["b", "a"] (hkeys ▸ .swap "a" "b" [])
  rw [List.flatMap_cons, List.flatMap_singleton] at hconveys
  obtain ⟨-, hresults, hreplicates⟩ := hrebuilt messages hconveys
  have hsample : s.collector.current? "b" = none :=
    Option.isNone_iff_eq_none.mp (by decide +kernel)
  refine ⟨hreachable, hready, by decide +kernel, hresults, hreplicates, fun entry hentry => ?_⟩
  exact (hunsampled "b" entry hentry hsample).1

end GpuCluster.Session
