import Mathlib
import GpuCluster.Proofs.Session.Ownership
import GpuCluster.Proofs.Telemetry.Log

/-!
# Devices are independent under recording

A sample, good or bad, touches nothing that a session holds for another device, and what becomes of it
depends on what the session holds for its own device alone. The samples of one device in a batch
therefore fare as if they had come without the others, and any two orders that keep the samples of
every device in sequence come to the same.
-/

namespace GpuCluster.Session

open Thermal (Transition)

variable {s t u : Session} {id : DeviceId} {sample : Sample Float}

/-- Two sessions hold the same for a device, and have announced the same about it. -/
structure SameAbout (s t : Session) (id : DeviceId) : Prop where
  mem_registry : id ∈ s.registry ↔ id ∈ t.registry
  thresholds : s.collector.thresholds = t.collector.thresholds
  slot : s.collector.slots.get? id = t.collector.slots.get? id
  executor : s.monitor.executors.get? id = t.monitor.executors.get? id
  changes : (s.collector.changes.sent.filter fun c => c.sample.deviceId = id) =
    t.collector.changes.sent.filter fun c => c.sample.deviceId = id
  transitions : (s.monitor.transitions.sent.filter fun c => c.deviceId = id) =
    t.monitor.transitions.sent.filter fun c => c.deviceId = id

namespace SameAbout

theorem refl (s : Session) (id : DeviceId) : SameAbout s s id where
  mem_registry := Iff.rfl
  thresholds := rfl
  slot := rfl
  executor := rfl
  changes := rfl
  transitions := rfl

theorem symm (h : SameAbout s t id) : SameAbout t s id where
  mem_registry := h.mem_registry.symm
  thresholds := h.thresholds.symm
  slot := h.slot.symm
  executor := h.executor.symm
  changes := h.changes.symm
  transitions := h.transitions.symm

theorem trans (h : SameAbout s t id) (h' : SameAbout t u id) : SameAbout s u id where
  mem_registry := h.mem_registry.trans h'.mem_registry
  thresholds := h.thresholds.trans h'.thresholds
  slot := h.slot.trans h'.slot
  executor := h.executor.trans h'.executor
  changes := h.changes.trans h'.changes
  transitions := h.transitions.trans h'.transitions

end SameAbout

/-! ## One sample -/

section Observe

variable {slot : Telemetry.Slot} {e : Thermal.Executor}

theorem deviceId_of_change_record {thresholds : ChangeThresholds} {change : Telemetry.Change}
    (h : (slot.record thresholds sample).2 = some change) :
    change.sample.deviceId = sample.deviceId := by
  rw [Telemetry.Slot.change_record] at h
  split at h
  · rw [← Option.some.inj h, Telemetry.Change.sample_since]
  · cases h

/-- Events about one device are no events about another. -/
theorem filter_toList_of_ne {ε : Type} {f : ε → DeviceId} {event? : Option ε} {id' : DeviceId}
    (hevent : ∀ event, event? = some event → f event = id') (hne : id' ≠ id) (l : List ε) :
    (l ++ event?.toList).filter (fun event => f event = id) =
      l.filter fun event => f event = id := by
  cases event? with
  | none => simp
  | some event => simp [hevent event rfl, hne]

theorem sameAbout_observed_of_ne (hs : Owned s)
    (he : s.monitor.executors.get? sample.deviceId = some e) (hne : sample.deviceId ≠ id) :
    SameAbout (s.observed sample slot e) s id where
  mem_registry := Iff.rfl
  thresholds := rfl
  slot := Table.get?_insert_of_ne _ _ hne
  executor := Table.get?_insert_of_ne _ _ hne
  changes := filter_toList_of_ne (fun _ h => deviceId_of_change_record h) hne _
  transitions := filter_toList_of_ne
    (fun _ h => (Thermal.Monitor.deviceId_of_observe h).trans (hs _ e he)) hne _

theorem SameAbout.observed (h : SameAbout s t sample.deviceId) :
    SameAbout (s.observed sample slot e) (t.observed sample slot e) sample.deviceId where
  mem_registry := h.mem_registry
  thresholds := h.thresholds
  slot := by
    simp only [Session.observed, Table.get?_insert_self, h.thresholds]
  executor := by
    simp only [Session.observed, Table.get?_insert_self]
  changes := by
    simp only [Session.observed, Channel.sendAll, List.filter_append, h.changes, h.thresholds]
  transitions := by
    simp only [Session.observed, Channel.sendAll, List.filter_append, h.transitions]

/-- A sample changes nothing about another device. -/
theorem Aligned.sameAbout_observe_of_ne (h : Aligned s) (hs : Owned s) (hne : sample.deviceId ≠ id) :
    SameAbout (s.observe sample).1 s id := by
  obtain ⟨-, heq⟩ | ⟨-, fault, -, heq⟩ | ⟨-, -, slot, e, -, he, heq⟩ := h.observe_cases sample
  · rw [heq]
    exact .refl s id
  · rw [heq]
    exact .refl s id
  · rw [heq]
    exact sameAbout_observed_of_ne hs he hne

/-- What becomes of a sample depends on what is held for its own device. -/
theorem SameAbout.observe (h : SameAbout s t sample.deviceId) (hs : Aligned s) (ht : Aligned t) :
    (s.observe sample).2 = (t.observe sample).2 ∧
      SameAbout (s.observe sample).1 (t.observe sample).1 sample.deviceId := by
  obtain ⟨hid, heq⟩ | ⟨hid, fault, hfault, heq⟩ | ⟨hid, hvalid, slot, e, hslot, he, heq⟩ :=
    hs.observe_cases sample
  · obtain ⟨-, heq'⟩ | ⟨hid', -⟩ | ⟨hid', -⟩ := ht.observe_cases sample
    · rw [heq, heq']
      exact ⟨rfl, h⟩
    · exact absurd (h.mem_registry.mpr hid') hid
    · exact absurd (h.mem_registry.mpr hid') hid
  · obtain ⟨hid', -⟩ | ⟨-, fault', hfault', heq'⟩ | ⟨-, hvalid', -⟩ := ht.observe_cases sample
    · exact absurd (h.mem_registry.mp hid) hid'
    · obtain rfl := Option.some.inj (hfault.symm.trans hfault')
      rw [heq, heq']
      exact ⟨rfl, h⟩
    · cases hfault.symm.trans hvalid'
  · obtain ⟨hid', -⟩ | ⟨-, fault', hfault', -⟩ | ⟨-, -, slot', e', hslot', he', heq'⟩ :=
      ht.observe_cases sample
    · exact absurd (h.mem_registry.mp hid) hid'
    · cases hfault'.symm.trans hvalid
    · obtain rfl := Option.some.inj (hslot.symm.trans (h.slot.trans hslot'))
      obtain rfl := Option.some.inj (he.symm.trans (h.executor.trans he'))
      rw [heq, heq']
      exact ⟨rfl, h.observed⟩

end Observe

/-! ## Batches -/

theorem length_observeAll (s : Session) (samples : List (Sample Float)) :
    (s.observeAll samples).2.length = samples.length := by
  induction samples generalizing s with
  | nil => rfl
  | cons sample rest ih => exact congrArg (· + 1) (ih _)

/-- The samples of one device fare as if they had come without those of the others. -/
theorem SameAbout.observeAll_filter (h : SameAbout s t id) (hs : Aligned s) (hs' : Owned s)
    (ht : Aligned t) (samples : List (Sample Float)) :
    SameAbout (s.observeAll samples).1
        (t.observeAll (samples.filter fun sample => sample.deviceId = id)).1 id ∧
      ((samples.zip (s.observeAll samples).2).filter fun result => result.1.deviceId = id) =
        (samples.filter fun sample => sample.deviceId = id).zip
          (t.observeAll (samples.filter fun sample => sample.deviceId = id)).2 := by
  -- Both sessions take in a sample of the device. The others come to the first session only, and leave
  -- it the same about the device.
  induction samples generalizing s t with
  | nil => exact ⟨h, rfl⟩
  | cons sample rest ih =>
    by_cases hid : sample.deviceId = id
    · subst hid
      obtain ⟨hresult, hnext⟩ := h.observe hs ht
      obtain ⟨hsame, hresults⟩ := ih hnext (hs.observe sample) (hs'.observe sample) (ht.observe sample)
      rw [List.filter_cons_of_pos (by simp), observeAll, observeAll]
      dsimp only
      refine ⟨hsame, ?_⟩
      rw [List.zip_cons_cons, List.zip_cons_cons, List.filter_cons_of_pos (by simp), hresults, hresult]
    · have hnext := (hs.sameAbout_observe_of_ne hs' hid).trans h
      obtain ⟨hsame, hresults⟩ := ih hnext (hs.observe sample) (hs'.observe sample) ht
      rw [List.filter_cons_of_neg (by simpa using hid), observeAll]
      dsimp only
      refine ⟨hsame, ?_⟩
      rw [List.zip_cons_cons, List.filter_cons_of_neg (by simpa using hid), hresults]

/-- Records samples one call after the other. -/
def recordEach (s : Session) :
    List (Sample Float) → Session × List (Except Error (Option Transition))
  | [] => (s, [])
  | sample :: rest =>
    let (s, result) := s.record sample
    let (s, results) := s.recordEach rest
    (s, result :: results)

theorem Aligned.phase_observe (h : Aligned s) (sample : Sample Float) :
    (s.observe sample).1.phase = s.phase := by
  obtain ⟨collector, monitor, heq⟩ := h.sameButObserved_observe sample
  rw [heq]

theorem Aligned.recordEach_eq (h : Aligned s) (hready : s.phase = .ready)
    (samples : List (Sample Float)) : s.recordEach samples = s.observeAll samples := by
  induction samples generalizing s with
  | nil => rfl
  | cons sample rest ih =>
    have hrecord : s.record sample = s.observe sample := call_of_ready hready _ _
    rw [recordEach, observeAll, hrecord]
    dsimp only
    rw [ih (h.observe sample) ((h.phase_observe sample).trans hready)]

theorem Aligned.sameButObserved_observeAll (h : Aligned s) (samples : List (Sample Float)) :
    SameButObserved s (s.observeAll samples).1 := by
  induction samples generalizing s with
  | nil => exact ⟨s.collector, s.monitor, rfl⟩
  | cons sample rest ih =>
    obtain ⟨collector, monitor, heq⟩ := h.sameButObserved_observe sample
    obtain ⟨collector', monitor', heq'⟩ := ih (h.observe sample)
    refine ⟨collector', monitor', ?_⟩
    rw [observeAll]
    dsimp only
    rw [heq', heq]

/-- Two sessions answer alike about a device, and have announced the same about it. -/
structure Agree (s t : Session) (id : DeviceId) : Prop where
  currentSample : s.currentSample id = t.currentSample id
  history : s.history id = t.history id
  summary : s.summary id = t.summary id
  thermalState : s.thermalState id = t.thermalState id
  mode : s.monitor.mode? id = t.monitor.mode? id
  changes : (s.collector.changes.sent.filter fun c => c.sample.deviceId = id) =
    t.collector.changes.sent.filter fun c => c.sample.deviceId = id
  transitions : (s.monitor.transitions.sent.filter fun c => c.deviceId = id) =
    t.monitor.transitions.sent.filter fun c => c.deviceId = id

theorem SameAbout.agree {collector collector' : Telemetry.Collector}
    {monitor monitor' : Thermal.Monitor}
    (h : SameAbout { s with collector, monitor }
      { s with collector := collector', monitor := monitor' } id) :
    Agree { s with collector, monitor }
      { s with collector := collector', monitor := monitor' } id := by
  have hslot : collector.slots.get? id = collector'.slots.get? id := h.slot
  have hexecutor : monitor.executors.get? id = monitor'.executors.get? id := h.executor
  refine ⟨?_, ?_, ?_, ?_, ?_, h.changes, h.transitions⟩
  · have hcurrent : collector.current? id = collector'.current? id := by
      rw [Telemetry.Collector.current?, Telemetry.Collector.current?, hslot]
    exact congrArg (fun answer => s.queryDevice "current_metrics" id fun _ => answer) hcurrent
  · have hhistory : collector.history id = collector'.history id := by
      rw [Telemetry.Collector.history, Telemetry.Collector.history, hslot]
    exact congrArg (fun answer => s.queryDevice "metrics_history" id fun _ => answer) hhistory
  · have hsummary : collector.summary? id = collector'.summary? id := by
      rw [Telemetry.Collector.summary?, Telemetry.Collector.summary?, hslot]
    exact congrArg (fun answer => s.queryDevice "metrics_summary" id fun _ => answer) hsummary
  · have hstate : monitor.state? id = monitor'.state? id := by
      rw [Thermal.Monitor.state?, Thermal.Monitor.state?, hexecutor]
    exact congrArg (fun answer => s.queryDevice "thermal_state" id fun _ => answer) hstate
  · dsimp only
    rw [Thermal.Monitor.mode?, Thermal.Monitor.mode?, hexecutor]

/-- Two batches with the same samples of every device in the same sequence. -/
def SameSequences (xs ys : List (Sample Float)) : Prop :=
  ∀ id, (xs.filter fun sample => sample.deviceId = id) =
    ys.filter fun sample => sample.deviceId = id

/--
A batch does what its samples do one after the other, and only the sequence of the samples of each
device matters: in another order of the devices every sample has the same result, and every device
ends with the same samples, statistics, thermal state and mode and has announced the same events.
-/
theorem recording_is_independent (h : Reachable s) (hready : s.phase = .ready) :
    (∀ xs, s.recordBatch xs = ((s.recordEach xs).1, .ok (s.recordEach xs).2)) ∧
    ∀ xs ys, SameSequences xs ys → ∃ results results',
      (s.recordBatch xs).2 = .ok results ∧ (s.recordBatch ys).2 = .ok results' ∧
      results.length = xs.length ∧ results'.length = ys.length ∧
      (∀ id, ((xs.zip results).filter fun result => result.1.deviceId = id) =
        (ys.zip results').filter fun result => result.1.deviceId = id) ∧
      ∀ id, Agree (s.recordBatch xs).1 (s.recordBatch ys).1 id := by
  have haligned := h.coherent.aligned
  have howned := h.owned
  have hbatch : ∀ xs, s.recordBatch xs = ((s.observeAll xs).1, .ok (s.observeAll xs).2) :=
    fun xs => call_of_ready hready _ _
  refine ⟨fun xs => ?_, fun xs ys hsame => ?_⟩
  · rw [hbatch, haligned.recordEach_eq hready]
  · rw [hbatch, hbatch]
    have halone : ∀ id xs, _ := fun id xs =>
      (SameAbout.refl s id).observeAll_filter haligned howned haligned xs
    refine ⟨_, _, rfl, rfl, length_observeAll s xs, length_observeAll s ys, fun id => ?_,
      fun id => ?_⟩
    · rw [(halone id xs).2, (halone id ys).2, hsame id]
    · have hboth : SameAbout (s.observeAll xs).1 (s.observeAll ys).1 id := by
        refine (halone id xs).1.trans ?_
        rw [hsame id]
        exact (halone id ys).1.symm
      obtain ⟨collector, monitor, hxs⟩ := haligned.sameButObserved_observeAll xs
      obtain ⟨collector', monitor', hys⟩ := haligned.sameButObserved_observeAll ys
      rw [hxs, hys] at hboth ⊢
      exact hboth.agree

/-- Two devices, one of which is also given a faulty sample, and a device that is not registered. -/
theorem recording_is_independent_of_two_devices :
    let gpu (id : DeviceId) : Device :=
      ⟨id, "A", .nvidia, "ada", 16, 4, [.fp32], .desktop, 900, none⟩
    let sample (id : DeviceId) (used : Int) : Sample Float := ⟨id, .epoch, used, 16, 50, 200, 60, 1500⟩
    let started := ((new {}).perform .start).1
    let s := ((started.perform (.registerDevice (gpu "a"))).1.perform (.registerDevice (gpu "b"))).1
    let xs := [sample "a" 4, sample "a" 17, sample "b" 2, sample "c" 1, sample "a" 6]
    let ys := [sample "b" 2, sample "a" 4, sample "c" 1, sample "a" 17, sample "a" 6]
    Reachable s ∧ s.phase = .ready ∧ SameSequences xs ys ∧
      ∃ results results', (s.recordBatch xs).2 = .ok results ∧ (s.recordBatch ys).2 = .ok results' ∧
        (∀ id, ((xs.zip results).filter fun result => result.1.deviceId = id) =
          (ys.zip results').filter fun result => result.1.deviceId = id) ∧
        ∀ id, Agree (s.recordBatch xs).1 (s.recordBatch ys).1 id := by
  intro gpu sample started s xs ys
  have hreachable : Reachable s :=
    (((Reachable.new {}).perform .start).perform (.registerDevice (gpu "a"))).perform
      (.registerDevice (gpu "b"))
  have hready : s.phase = .ready := by decide +kernel
  have hsame : SameSequences xs ys := by
    intro id
    simp only [xs, ys, sample, List.filter_cons]
    by_cases ha : "a" = id
    · subst ha
      rfl
    · by_cases hb : "b" = id
      · subst hb
        rfl
      · simp [ha, hb]
  obtain ⟨-, hbatches⟩ := recording_is_independent hreachable hready
  obtain ⟨results, results', hxs, hys, -, -, hresults, hagree⟩ := hbatches xs ys hsame
  exact ⟨hreachable, hready, hsame, results, results', hxs, hys, hresults, hagree⟩

end GpuCluster.Session
