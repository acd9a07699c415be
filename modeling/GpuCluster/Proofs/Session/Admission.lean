import Mathlib
import GpuCluster.Proofs.Session.Calls

/-!
# Calls on a session that is not ready

A session that is not started, has not been able to start or shuts down admits nothing but a start. All
other calls are turned away and change nothing. The one call that looks at its argument before it asks
for admission is the one that brings an envelope as text: a text that cannot be taken is refused for its
own fault, whatever the phase of the session.
-/

namespace GpuCluster.Session

variable {s : Session} {α : Type}

/-- The call is the one that a session admits in every phase. -/
def Call.isStart : {α : Type} → Call α → Bool
  | _, .start => true
  | _, _ => false

/-- What is wrong with the text of a call that brings an envelope as text. -/
def Call.textFault? : {α : Type} → Call α → Option Error
  | _, .ingestText text =>
    match Wire.Envelope.decode text with
    | .error e => some e
    | .ok _ => none
  | _, _ => none

theorem kind_of_fault?_eq_some {m : Wire.Message} {e : Error} (h : m.fault? = some e) :
    e.kind = .validation := by
  cases m with
  | registration r =>
    rw [Wire.Message.fault?] at h
    split at h
    · rw [← Option.some.inj h]
      rfl
    · obtain ⟨fault, -, rfl⟩ := Option.map_eq_some_iff.mp h
      rfl
  | heartbeat heartbeat =>
    rw [Wire.Message.fault?] at h
    split at h
    · rw [← Option.some.inj h]
      rfl
    · obtain ⟨fault, -, rfl⟩ := Option.map_eq_some_iff.mp h
      rfl

/-- The error of a text that cannot be taken is never that of a session that is not ready. -/
theorem kind_of_decode_eq_error {text : String} {e : Error}
    (h : Wire.Envelope.decode text = .error e) : e.kind ≠ .notInitialized := by
  have hunreadable : Error.unreadable.kind ≠ .notInitialized := nofun
  rw [Wire.Envelope.decode] at h
  split at h
  · exact Except.error.inj h ▸ hunreadable
  · split at h
    · exact Except.error.inj h ▸ hunreadable
    · split at h
      · rw [← Except.error.inj h]
        exact nofun
      · split at h
        · exact Except.error.inj h ▸ hunreadable
        · split at h
          · rename_i fault hfault
            rw [← Except.error.inj h, kind_of_fault?_eq_some hfault]
            exact nofun
          · cases h

theorem queryDevice_of_ne_ready (h : s.phase ≠ .ready) (operation : String) (id : DeviceId)
    (answer : RegisteredDevice → α) :
    s.queryDevice operation id answer = .error (.rejected operation s.phase) :=
  query_of_ne_ready h operation _

/-- A call is turned away by the name of an operation, unless its text is refused before. -/
theorem perform_of_ne_ready (h : s.phase ≠ .ready) {call : Call α} (hcall : call.isStart = false) :
    ∃ operation,
      s.perform call = (s, .error (call.textFault?.getD (.rejected operation s.phase))) := by
  cases call with
  | start => cases hcall
  | registerDevice _ | removeDevice _ | record _ | recordBatch _ | startSampling | placeShards _
  | beginPlacement _ | releaseAssignment _ | beginCompute _ | ingest _ =>
    exact ⟨_, call_of_ne_ready h _ _⟩
  | devices | aggregate | subscribeChanges | rankDevices | selectBestDevice _ | assignment _
  | storedAssignments | distribute _ _ _ _ | distributeByCapacity _ _ _ | thermalStates
  | subscribeTransitions =>
    exact ⟨_, congrArg (Prod.mk s) (query_of_ne_ready h _ _)⟩
  | device _ | currentSample _ | history _ | summary _ | thermalState _ =>
    exact ⟨_, congrArg (Prod.mk s) (queryDevice_of_ne_ready h _ _ _)⟩
  | ingestText text =>
    simp only [perform, Call.textFault?, ingestText]
    cases Wire.Envelope.decode text with
    | error e => exact ⟨"ingest", rfl⟩
    | ok envelope => exact ⟨"ingest", call_of_ne_ready h _ _⟩
  | registrationMessage id _ _ | heartbeatMessage id =>
    refine ⟨"device", congrArg (Prod.mk s) ?_⟩
    have hdevice : s.device id = _ := queryDevice_of_ne_ready h _ _ _
    simp only [registrationMessage, heartbeatMessage, hdevice]
    rfl

/--
A session that is not ready, whatever has happened to it, is not changed by any call but a start. The
call fails because the session is not ready, unless it brings a text that is no envelope of the known
version without fault: such a text is refused for what is wrong with it.
-/
theorem refused_of_ne_ready (h : s.phase ≠ .ready) (call : Call α) (hcall : call.isStart = false) :
    (s.perform call).1 = s ∧
    (call.textFault? = none → ∃ e, (s.perform call).2 = .error e ∧ e.kind = .notInitialized) ∧
    ∀ fault, call.textFault? = some fault →
      (s.perform call).2 = .error fault ∧ fault.kind ≠ .notInitialized := by
  obtain ⟨operation, heq⟩ := perform_of_ne_ready h hcall
  rw [heq]
  refine ⟨rfl, fun hnone => ⟨_, rfl, ?_⟩, fun fault hfault => ⟨?_, ?_⟩⟩
  · rw [hnone]
    rfl
  · rw [hfault]
    rfl
  · cases call with
    | ingestText text =>
      rw [Call.textFault?] at hfault
      split at hfault
      · rename_i e hdecode
        exact Option.some.inj hfault ▸ kind_of_decode_eq_error hdecode
      · cases hfault
    | _ => cases hfault

/-- A sample for a session that has been shut down. -/
theorem refused_of_ne_ready_after_shutdown :
    let sample : Sample Float := ⟨"gpu", .epoch, 4, 16, 50, 200, 60, 1500⟩
    let s := ((new {}).perform .start).1.beginShutdown
    s.phase ≠ .ready ∧ (s.perform (.record sample)).1 = s ∧
      ∃ e, (s.perform (.record sample)).2 = .error e ∧ e.kind = .notInitialized := by
  intro sample s
  have hphase : s.phase ≠ .ready := by decide +kernel
  obtain ⟨hsame, hkind, -⟩ := refused_of_ne_ready hphase (.record sample) rfl
  exact ⟨hphase, hsame, hkind rfl⟩

/-- A text that is no envelope, for a session that has never been started. -/
theorem unreadable_before_start :
    (new {}).phase ≠ .ready ∧ ∃ e, ((new {}).perform (.ingestText "not json")).2 = .error e ∧
      e.kind = .serialization ∧ e.kind ≠ .notInitialized :=
  ⟨nofun, .unreadable, rfl, rfl, nofun⟩

end GpuCluster.Session
