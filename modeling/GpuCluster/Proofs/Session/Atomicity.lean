import Mathlib
import GpuCluster.Proofs.Session.Coherence

/-!
# A call that fails changes nothing

Registering, removing and placing check everything before they change anything. A sample is first
given to the collector and then to the monitor, and a heartbeat is first entered in the registry: what
comes first there would be left behind if the rest could fail, which coherence excludes.
-/

namespace GpuCluster.Session

variable {s : Session} {e : Error}

theorem Aligned.observe_eq_self_of_error (h : Aligned s) {sample : Sample Float}
    (he : (s.observe sample).2 = .error e) : (s.observe sample).1 = s := by
  rcases h.observe_cases sample with ⟨-, heq⟩ | ⟨-, fault, -, heq⟩ | ⟨-, -, slot, e', -, -, heq⟩
  · rw [heq]
  · rw [heq]
  · rw [heq] at he
    cases he

theorem start_eq_self_of_error (he : s.start.2 = .error e) : s.start.1 = s := by
  rw [start] at he ⊢
  split at he
  · cases he
  · rfl
  · split at he
    · rfl
    · cases he

theorem removeDevice_eq_self_of_error {id : DeviceId} (he : (s.removeDevice id).2 = .error e) :
    (s.removeDevice id).1 = s := by
  refine call_eq_self_of_error he fun _ he => ?_
  split at he
  · cases he
  · rename_i hid
    rw [if_neg hid]

theorem announce_eq_self_of_error {d : Device} {endpoint : Option String}
    (he : (s.announce d endpoint).2 = .error e) : (s.announce d endpoint).1 = s := by
  rw [announce] at he ⊢
  split at he
  · rfl
  · split at he
    · cases he
    · split at he
      · cases he
      · rename_i hsame
        exact congrArg Prod.fst (if_neg hsame)

/-! ## Messages -/

theorem registration_fault?_eq_none_iff {r : Wire.Registration} :
    (Wire.Message.registration r).fault? = none ↔
      Text.allBlank r.hostname = false ∧ r.device.fault? = none := by
  rw [Wire.Message.fault?]
  cases Text.allBlank r.hostname <;> simp

theorem heartbeat_fault?_eq_none_iff {heartbeat : Wire.Heartbeat} :
    (Wire.Message.heartbeat heartbeat).fault? = none ↔
      heartbeat.deviceId = heartbeat.sample.deviceId ∧ heartbeat.sample.fault? = none := by
  rw [Wire.Message.fault?]
  by_cases hid : heartbeat.deviceId = heartbeat.sample.deviceId <;> simp [hid]

/-- A heartbeat without fault is entered in the registry, and its sample is taken in. -/
theorem Aligned.applyHeartbeat_eq (h : Aligned s) {heartbeat : Wire.Heartbeat}
    (hfault : (Wire.Message.heartbeat heartbeat).fault? = none) {entry : RegisteredDevice}
    (hentry : s.registry.get? heartbeat.deviceId = some entry) :
    ∃ slot e, s.applyHeartbeat heartbeat =
      ({ s.observed heartbeat.sample slot e with
        registry := s.registry.insert heartbeat.deviceId
          { entry with isAvailable := heartbeat.isAvailable, lastError := heartbeat.lastError } },
       .ok (e.observe (Thermal.Monitor.readingOf heartbeat.sample)).2) := by
  obtain ⟨hid, hsample⟩ := heartbeat_fault?_eq_none_iff.mp hfault
  rcases h.observe_cases heartbeat.sample with
    ⟨hnot, -⟩ | ⟨-, fault, hsome, -⟩ | ⟨-, -, slot, e, -, -, hok⟩
  · exact absurd (hid ▸ Table.mem_of_get? hentry) hnot
  · cases hsample.symm.trans hsome
  · refine ⟨slot, e, ?_⟩
    rw [Session.applyHeartbeat, hentry]
    dsimp only
    rw [observe_of_registry, hok]

/-- Whatever a heartbeat without fault has written to the registry, its sample is taken in. -/
theorem Coherent.observe_heartbeat (h : Coherent s) {heartbeat : Wire.Heartbeat}
    (hid : heartbeat.deviceId ∈ s.registry)
    (hfault : (Wire.Message.heartbeat heartbeat).fault? = none) (entry : RegisteredDevice) :
    ∃ transition,
      ({ s with registry := s.registry.insert heartbeat.deviceId entry }.observe
        heartbeat.sample).2 = .ok transition := by
  obtain ⟨heq, hnone⟩ := heartbeat_fault?_eq_none_iff.mp hfault
  rcases (h.setEntry hid entry).aligned.observe_cases heartbeat.sample with
    ⟨hnot, -⟩ | ⟨-, fault, hsome, -⟩ | ⟨-, -, slot, e, -, -, hok⟩
  · exact absurd (Table.mem_insert.mpr (Or.inl heq.symm)) hnot
  · rw [hnone] at hsome
    cases hsome
  · exact ⟨_, by rw [hok]⟩

theorem Coherent.applyHeartbeat_eq_self_of_error (h : Coherent s) {heartbeat : Wire.Heartbeat}
    (hfault : (Wire.Message.heartbeat heartbeat).fault? = none)
    (he : (s.applyHeartbeat heartbeat).2 = .error e) : (s.applyHeartbeat heartbeat).1 = s := by
  rw [Session.applyHeartbeat] at he ⊢
  split at he
  · rfl
  · rename_i entry hentry
    obtain ⟨transition, hok⟩ := h.observe_heartbeat (Table.mem_of_get? hentry) hfault
      { entry with isAvailable := heartbeat.isAvailable, lastError := heartbeat.lastError }
    rw [hok] at he
    cases he

theorem Coherent.ingest_eq_self_of_error (h : Coherent s) {m : Wire.Message}
    (he : (s.ingest m).2 = .error e) : (s.ingest m).1 = s := by
  refine call_eq_self_of_error he fun _ he => ?_
  cases hfault : m.fault? with
  | some fault => rfl
  | none =>
    rw [hfault] at he
    cases m with
    | registration r =>
      change (s.announce r.device (some r.endpoint)).2.map _ = .error e at he
      cases hresult : (s.announce r.device (some r.endpoint)).2 with
      | error cause => exact announce_eq_self_of_error hresult
      | ok isNew =>
        rw [hresult] at he
        cases he
    | heartbeat heartbeat => exact h.applyHeartbeat_eq_self_of_error hfault he

theorem Coherent.ingestText_eq_self_of_error (h : Coherent s) {text : String}
    (he : (s.ingestText text).2 = .error e) : (s.ingestText text).1 = s := by
  rw [Session.ingestText] at he ⊢
  split at he
  · rfl
  · exact h.ingest_eq_self_of_error he

/-! ## Batches -/

/-- A sample of a batch that is refused leaves the session as the samples before it made it. -/
theorem Coherent.observeAll_take (h : Coherent s) {samples : List (Sample Float)} {k : Nat}
    (hk : (s.observeAll samples).2[k]? = some (.error e)) :
    (s.observeAll (samples.take (k + 1))).1 = (s.observeAll (samples.take k)).1 := by
  induction samples generalizing s k with
  | nil => cases hk
  | cons sample rest ih =>
    -- Samples that come before the refused one may change the session, but keep it coherent.
    cases k with
    | zero => exact h.aligned.observe_eq_self_of_error (Option.some.inj hk)
    | succ k => exact ih (h.observe sample) hk

theorem Coherent.recordBatch_take (h : Coherent s) {samples : List (Sample Float)}
    {results : List (Except Error (Option Thermal.Transition))} {k : Nat}
    (hresults : (s.recordBatch samples).2 = .ok results) (hk : results[k]? = some (.error e)) :
    (s.recordBatch (samples.take (k + 1))).1 = (s.recordBatch (samples.take k)).1 := by
  have hready : s.phase = .ready := by
    by_contra hphase
    rw [Session.recordBatch, call_of_ne_ready hphase] at hresults
    cases hresults
  have hbatch : ∀ batch, s.recordBatch batch = ((s.observeAll batch).1, .ok (s.observeAll batch).2) :=
    fun batch => call_of_ready hready _ _
  rw [hbatch] at hresults ⊢
  rw [hbatch]
  obtain rfl := Except.ok.inj hresults
  exact h.observeAll_take hk

/-! ## All calls -/

theorem Coherent.perform_eq_self_of_error (h : Coherent s) {α : Type} {call : Call α}
    (he : (s.perform call).2 = .error e) : (s.perform call).1 = s := by
  cases call with
  | start => exact start_eq_self_of_error he
  | registerDevice d => exact call_eq_self_of_error he fun _ => announce_eq_self_of_error
  | removeDevice id => exact removeDevice_eq_self_of_error he
  | record sample =>
    exact call_eq_self_of_error he fun _ => h.aligned.observe_eq_self_of_error
  | recordBatch _ | releaseAssignment _ =>
    refine call_eq_self_of_error he fun _ he => ?_
    cases he
  | startSampling | placeShards _ | beginPlacement _ | beginCompute _ =>
    refine call_eq_self_of_error he fun _ he => ?_
    split at he
    · rfl
    · cases he
  | ingest m => exact h.ingest_eq_self_of_error he
  | ingestText text => exact h.ingestText_eq_self_of_error he
  -- The others are questions.
  | _ => rfl

theorem completePlacement_of_error {id : AssignmentId} {reply : Reply Placement.Assignment}
    (hreply : s.completePlacement id = some reply) (he : reply.2 = .error e) :
    reply.1 = { s with pending := s.pending.erase id } := by
  obtain ⟨placement, -, rfl⟩ := Option.map_eq_some_iff.mp hreply
  dsimp only at he ⊢
  split at he
  · rfl
  · cases he

/--
A call that fails leaves a session as it was, the events that were announced included. So does each
sample of a batch that is refused. A placement that fails when it is completed only ceases to be
pending. A heartbeat without fault cannot fail any more when it has been entered in the registry.
-/
theorem failure_changes_nothing (h : Reachable s) :
    (∀ {α : Type} (call : Call α) (e : Error),
      (s.perform call).2 = .error e → (s.perform call).1 = s) ∧
    (∀ samples results k e, (s.recordBatch samples).2 = .ok results →
      results[k]? = some (.error e) →
      (s.recordBatch (samples.take (k + 1))).1 = (s.recordBatch (samples.take k)).1) ∧
    (∀ id reply e, s.completePlacement id = some reply → reply.2 = .error e →
      reply.1 = { s with pending := s.pending.erase id }) ∧
    (∀ (heartbeat : Wire.Heartbeat) (entry : RegisteredDevice), heartbeat.deviceId ∈ s.registry →
      (Wire.Message.heartbeat heartbeat).fault? = none → ∃ transition,
        ({ s with registry := s.registry.insert heartbeat.deviceId entry }.observe
          heartbeat.sample).2 = .ok transition) := by
  have hcoherent := h.coherent
  refine ⟨fun call e he => hcoherent.perform_eq_self_of_error he, ?_, ?_, ?_⟩
  · exact fun samples results k e hresults hk => hcoherent.recordBatch_take hresults hk
  · exact fun id reply e hreply he => completePlacement_of_error hreply he
  · exact fun heartbeat entry hid hfault => hcoherent.observe_heartbeat hid hfault entry

/-- A registered device, of which a heartbeat and a batch bring a sample with too many bytes in use. -/
theorem failure_changes_nothing_of_overfull :
    let gpu : Device := ⟨"gpu", "A", .nvidia, "ada", 16, 4, [.fp32], .desktop, 900, none⟩
    let sample (used : Int) : Sample Float := ⟨"gpu", .epoch, used, 16, 50, 200, 60, 1500⟩
    let s := (((new {}).perform .start).1.perform (.registerDevice gpu)).1
    Reachable s ∧
      (s.perform (.ingest (.heartbeat ⟨"gpu", sample 17, false, some "lost"⟩))).1 = s ∧
      (s.recordBatch [sample 4, sample 17]).1 = (s.recordBatch [sample 4]).1 ∧
      ∀ entry, ∃ transition,
        ({ s with registry := s.registry.insert "gpu" entry }.observe (sample 4)).2 =
          .ok transition := by
  dsimp only
  obtain ⟨hcalls, hbatch, -, hheartbeat⟩ := failure_changes_nothing
    (((Reachable.new {}).perform .start).perform (.registerDevice
      ⟨"gpu", "A", .nvidia, "ada", 16, 4, [.fp32], .desktop, 900, none⟩))
  refine ⟨((Reachable.new {}).perform .start).perform _, ?_, ?_, fun entry => ?_⟩
  · exact hcalls _ (.sample (.overfull "gpu" 17 16)) rfl
  · exact hbatch [_, _] _ 1 (.sample (.overfull "gpu" 17 16)) rfl rfl
  · exact hheartbeat ⟨"gpu", _, true, none⟩ entry rfl rfl

end GpuCluster.Session
