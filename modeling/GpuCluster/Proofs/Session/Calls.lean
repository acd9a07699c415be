import Mathlib
import GpuCluster.Session.Lifecycle
import GpuCluster.Session.Placement
import GpuCluster.Session.Wire

/-!
# Calls and runs

The calls that are made on a session, each with the type of its answer, and the sessions that are
reached by calls, by placements that are completed, by permits that are given back, by time that
passes and by shutdowns, in any order.
-/

namespace GpuCluster.Session

/-- A call on a session that answers with a value of the given type. -/
inductive Call : Type → Type 1
  | start : Call Unit
  | registerDevice (d : Device) : Call Bool
  | removeDevice (id : DeviceId) : Call (List AssignmentId)
  | devices : Call (List RegisteredDevice)
  | device (id : DeviceId) : Call RegisteredDevice
  | record (sample : Sample Float) : Call (Option Thermal.Transition)
  | recordBatch (samples : List (Sample Float)) :
      Call (List (Except Error (Option Thermal.Transition)))
  | currentSample (id : DeviceId) : Call (Option (Sample Float))
  | history (id : DeviceId) : Call (List (Sample Float))
  | summary (id : DeviceId) : Call (Option Summary)
  | aggregate : Call Aggregate
  | subscribeChanges : Call Subscription
  | startSampling : Call Nat
  | rankDevices : Call (List (Score Number.Extended))
  | selectBestDevice (minFree : Nat) : Call (Option (Score Number.Extended))
  | placeShards (r : Placement.Request) : Call (AssignmentId × Placement.Assignment)
  | beginPlacement (r : Placement.Request) : Call AssignmentId
  | assignment (id : AssignmentId) : Call (Option Placement.Assignment)
  | storedAssignments : Call (List (AssignmentId × Placement.Assignment))
  | releaseAssignment (id : AssignmentId) : Call Bool
  | distribute {τ : Type} (strategy : Distribution.Strategy) (cap : Option Nat)
      (ids : List DeviceId) (items : List τ) : Call (Table DeviceId (List τ))
  | distributeByCapacity {τ : Type} (cap : Option Nat) (weights : Table DeviceId Float)
      (items : List τ) : Call (Table DeviceId (List τ))
  | thermalState (id : DeviceId) : Call (Option Thermal.State)
  | thermalStates : Call (List Thermal.State)
  | subscribeTransitions : Call Subscription
  | beginCompute (id : DeviceId) : Call Thermal.Permit
  | ingest (m : Wire.Message) : Call (Option Thermal.Transition)
  | ingestText (text : String) : Call (Option Thermal.Transition)
  | registrationMessage (id : DeviceId) (hostname : String) (listensOn : Nat) : Call Wire.Message
  | heartbeatMessage (id : DeviceId) : Call Wire.Message

/-- Makes a call. A question leaves the session as it is. -/
def perform (s : Session) : {α : Type} → Call α → Reply α
  | _, .start => s.start
  | _, .registerDevice d => s.registerDevice d
  | _, .removeDevice id => s.removeDevice id
  | _, .devices => (s, s.devices)
  | _, .device id => (s, s.device id)
  | _, .record sample => s.record sample
  | _, .recordBatch samples => s.recordBatch samples
  | _, .currentSample id => (s, s.currentSample id)
  | _, .history id => (s, s.history id)
  | _, .summary id => (s, s.summary id)
  | _, .aggregate => (s, s.aggregate)
  | _, .subscribeChanges => (s, s.subscribeChanges)
  | _, .startSampling => s.startSampling
  | _, .rankDevices => (s, s.rankDevices)
  | _, .selectBestDevice minFree => (s, s.selectBestDevice minFree)
  | _, .placeShards r => s.placeShards r
  | _, .beginPlacement r => s.beginPlacement r
  | _, .assignment id => (s, s.assignment id)
  | _, .storedAssignments => (s, s.storedAssignments)
  | _, .releaseAssignment id => s.releaseAssignment id
  | _, .distribute strategy cap ids items => (s, s.distribute strategy cap ids items)
  | _, .distributeByCapacity cap weights items => (s, s.distributeByCapacity cap weights items)
  | _, .thermalState id => (s, s.thermalState id)
  | _, .thermalStates => (s, s.thermalStates)
  | _, .subscribeTransitions => (s, s.subscribeTransitions)
  | _, .beginCompute id => s.beginCompute id
  | _, .ingest m => s.ingest m
  | _, .ingestText text => s.ingestText text
  | _, .registrationMessage id hostname listensOn =>
    (s, s.registrationMessage id hostname listensOn)
  | _, .heartbeatMessage id => (s, s.heartbeatMessage id)

/-- The sessions that are reached from a new one. -/
inductive Reachable : Session → Prop
  | new (config : Config) : Reachable (new config)
  | perform {s : Session} (h : Reachable s) {α : Type} (call : Call α) :
      Reachable (s.perform call).1
  | completePlacement {s : Session} (h : Reachable s) {id : AssignmentId}
      {reply : Reply Placement.Assignment} (hreply : s.completePlacement id = some reply) :
      Reachable reply.1
  | giveBack {s : Session} (h : Reachable s) (permit : Thermal.Permit) : Reachable (s.giveBack permit)
  | advance {s : Session} (h : Reachable s) {σ : Type}
      (pull : DeviceId → σ → Option (Sample Float) × σ) (ms : Nat) (source : σ) :
      Reachable (s.advance pull ms source).1
  | beginShutdown {s : Session} (h : Reachable s) : Reachable s.beginShutdown
  | completeShutdown {s : Session} (h : Reachable s) {σ : Type}
      (pull : DeviceId → σ → Option (Sample Float) × σ) (source : σ) :
      Reachable (s.completeShutdown pull source).1

/-- A shutdown as a whole is made of its two steps. -/
theorem Reachable.shutdown {s : Session} (h : Reachable s) {σ : Type}
    (pull : DeviceId → σ → Option (Sample Float) × σ) (source : σ) :
    Reachable (s.shutdown pull source).1 := by
  rw [Session.shutdown]
  split
  · exact h.beginShutdown.completeShutdown pull source
  · exact h

/-! ## Admission -/

variable {s : Session} {α : Type}

theorem call_of_ready (h : s.phase = .ready) (operation : String) (reply : Reply α) :
    s.call operation reply = reply := by
  simp [call, rejection?, h]

/-- A call is refused outside the ready phase, and otherwise made. -/
theorem call_cases (s : Session) (operation : String) (reply : Reply α) :
    (s.phase ≠ .ready ∧ s.call operation reply = (s, .error (.rejected operation s.phase))) ∨
    (s.phase = .ready ∧ s.call operation reply = reply) := by
  by_cases h : s.phase = .ready
  · exact Or.inr ⟨h, call_of_ready h operation reply⟩
  · exact Or.inl ⟨h, call_of_ne_ready h operation reply⟩

theorem of_call {P : Session → Prop} (operation : String) {reply : Reply α} (hs : P s)
    (h : s.phase = .ready → P reply.1) : P (s.call operation reply).1 := by
  rcases call_cases s operation reply with ⟨-, heq⟩ | ⟨hready, heq⟩
  · rwa [heq]
  · rw [heq]
    exact h hready

/-- A call that fails has changed nothing, if that holds of the reply that is made when it is
admitted. -/
theorem call_eq_self_of_error {operation : String} {reply : Reply α} {e : Error}
    (h : (s.call operation reply).2 = .error e)
    (hreply : s.phase = .ready → reply.2 = .error e → reply.1 = s) :
    (s.call operation reply).1 = s := by
  rcases call_cases s operation reply with ⟨-, heq⟩ | ⟨hready, heq⟩
  · rw [heq]
  · rw [heq] at h ⊢
    exact hreply hready h

theorem query_of_ready (h : s.phase = .ready) (operation : String) (answer : Except Error α) :
    s.query operation answer = answer := by
  simp [query, rejection?, h]

theorem queryDevice_of_ready (h : s.phase = .ready) (operation : String) (id : DeviceId)
    (answer : RegisteredDevice → α) :
    s.queryDevice operation id answer =
      match s.registry.get? id with
      | some entry => .ok (answer entry)
      | none => .error (.unknownDevice id) :=
  query_of_ready h _ _

theorem queryDevice_of_mem (h : s.phase = .ready) {id : DeviceId} (hid : id ∈ s.registry)
    (operation : String) (answer : α) : s.queryDevice operation id (fun _ => answer) = .ok answer := by
  obtain ⟨entry, hentry⟩ := Option.isSome_iff_exists.mp hid
  rw [queryDevice_of_ready h, hentry]

end GpuCluster.Session
