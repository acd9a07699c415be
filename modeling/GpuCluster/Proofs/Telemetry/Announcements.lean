import Mathlib
import GpuCluster.Proofs.Telemetry.Log

/-!
# Announcements bound the drift

A sample is announced when it is the first of its device or is beyond a threshold, measured from the
sample that was announced last. However slowly the samples move, the current one therefore stays within
the thresholds of the last announcement. A double within a threshold is one that can be compared with
it, so that the differences have to be defined: the samples are valid, and their byte counts fit a
machine word.
-/

namespace GpuCluster

open Number

section UsedFraction

variable {s : Sample Float}

theorem Sample.isFinite_usedFraction (hvalid : s.fault? = none) (hfits : s.Fits) :
    (s.usedFraction : Float).isFinite = true := by
  obtain ⟨hused, htotal, hle⟩ := Sample.bytes_of_fault?_eq_none hvalid
  have hbound := hfits.total.2
  have hsigned : (Numeral.signedBound : Int) = 2 ^ 63 := rfl
  rw [Sample.usedFraction, if_neg (not_le.mpr htotal), Sample.ofInt_used hvalid, Scalar.ofInt,
    if_neg (not_lt.mpr htotal.le)]
  exact isFinite_ofNat_div (by omega) (by omega) (by omega)

end UsedFraction

namespace Telemetry

/-- A sample is at most the thresholds away from another one. -/
structure Within (t : ChangeThresholds) (last s : Sample Float) : Prop where
  utilization : (s.utilization - last.utilization).abs ≤ t.utilization
  temperature : (s.temperature - last.temperature).abs ≤ t.temperature
  memory : (s.usedFraction - last.usedFraction : Float).abs ≤ t.memoryFraction

/-- A sample is more than one of the thresholds away from another one. -/
def Exceeds (t : ChangeThresholds) (last s : Sample Float) : Prop :=
  t.utilization < (s.utilization - last.utilization).abs ∨
    t.temperature < (s.temperature - last.temperature).abs ∨
    t.memoryFraction < (s.usedFraction - last.usedFraction : Float).abs

/-- A sample whose measurements can be compared. -/
def Measured (s : Sample Float) : Prop := s.fault? = none ∧ s.Fits

section Thresholds

variable {p : TelemetryPolicy} {t : ChangeThresholds} {last s : Sample Float}

/-- No threshold is negative or undefined. -/
def Tolerant (t : ChangeThresholds) : Prop :=
  0 ≤ t.utilization ∧ 0 ≤ t.temperature ∧ 0 ≤ t.memoryFraction

theorem tolerant_of_fault?_eq_none (h : p.fault? = none) : Tolerant p.thresholds := by
  simp only [TelemetryPolicy.fault?, ite_eq_iff, reduceCtorEq, and_false, false_or] at h
  obtain ⟨-, -, -, h⟩ := h
  rw [ChangeThresholds.fault?, Option.map_eq_none_iff, List.find?_eq_none] at h
  have hle : ∀ x : Float, ¬(!x.isFinite || decide (x < 0)) = true → 0 ≤ x := by
    intro x hx
    rw [Bool.or_eq_true, not_or, Bool.not_eq_true', Bool.not_eq_false] at hx
    exact le_of_not_lt (isNaN_of_isFinite hx.1) rfl fun hlt => hx.2 (decide_eq_true hlt)
  refine ⟨hle _ (h ("utilization_pct", p.thresholds.utilization) ?_),
    hle _ (h ("temperature_c", p.thresholds.temperature) ?_),
    hle _ (h ("memory_fraction", p.thresholds.memoryFraction) ?_)⟩
  · exact List.mem_cons_self
  · exact List.mem_cons_of_mem _ List.mem_cons_self
  · exact List.mem_cons_of_mem _ (List.mem_cons_of_mem _ List.mem_cons_self)

theorem Tolerant.within_self (ht : Tolerant t) (hs : Measured s) : Within t s s := by
  obtain ⟨hutilization, -, htemperature⟩ := Sample.isFinite_of_fault?_eq_none hs.1
  exact ⟨abs_sub_self_le hutilization ht.1,
    abs_sub_self_le htemperature ht.2.1,
    abs_sub_self_le (Sample.isFinite_usedFraction hs.1 hs.2) ht.2.2⟩

theorem abs_sub_le_of_not_lt {x y z : Float} (hx : x.isFinite = true) (hy : y.isFinite = true)
    (hz : 0 ≤ z) (h : ¬z < (x - y).abs) : (x - y).abs ≤ z := by
  obtain ⟨-, q, -, hq, -⟩ := le_iff_position.mp hz
  refine le_of_not_lt ?_ (isNaN_abs (isNaN_sub hx hy)) h
  rw [Bool.eq_false_iff]
  intro hnan
  cases hq.symm.trans (isNaN_iff_position.mp hnan)

/-- Between measured samples every difference is on one side of its threshold. -/
theorem Tolerant.within_of_not_exceeds (ht : Tolerant t) (hlast : Measured last) (hs : Measured s)
    (h : ¬Exceeds t last s) : Within t last s := by
  rw [Exceeds, not_or, not_or] at h
  obtain ⟨hutilization, -, htemperature⟩ := Sample.isFinite_of_fault?_eq_none hs.1
  obtain ⟨hutilization', -, htemperature'⟩ := Sample.isFinite_of_fault?_eq_none hlast.1
  exact ⟨abs_sub_le_of_not_lt hutilization hutilization' ht.1 h.1,
    abs_sub_le_of_not_lt htemperature htemperature' ht.2.1 h.2.1,
    abs_sub_le_of_not_lt (Sample.isFinite_usedFraction hs.1 hs.2)
      (Sample.isFinite_usedFraction hlast.1 hlast.2) ht.2.2 h.2.2⟩

theorem isNotable_since_iff (t : ChangeThresholds) (last : Option (Sample Float))
    (s : Sample Float) :
    (Change.since last s).isNotable t = true ↔ ∀ l, last = some l → Exceeds t l s := by
  cases last with
  | none => simp [Change.since, Change.isNotable]
  | some l =>
    have hiff : (Change.since (some l) s).isNotable t = true ↔ Exceeds t l s := by
      simp only [Change.since, Change.isNotable, Bool.false_or, Bool.or_eq_true, or_assoc]
      exact or_congr decide_eq_true_iff (or_congr decide_eq_true_iff decide_eq_true_iff)
    rw [hiff]
    constructor
    · rintro hexceeds l' ⟨⟩
      exact hexceeds
    · intro h
      exact h l rfl

end Thresholds

/-! ## Accounts -/

namespace Account

variable {t : ChangeThresholds} {a : Account} {s : Sample Float}

/-- The sample that was announced last. -/
def lastAnnounced? (a : Account) : Option (Sample Float) :=
  a.changes.getLast?.map (·.sample)

/-- The change that a sample announces, if any. -/
def announce? (t : ChangeThresholds) (a : Account) (s : Sample Float) : Option Change :=
  if (Change.since a.lastAnnounced? s).isNotable t then some (Change.since a.lastAnnounced? s)
  else none

/-- The latest sample is still close to the one that was announced last. -/
structure IsClose (t : ChangeThresholds) (a : Account) : Prop where
  measured : ∀ change ∈ a.changes, Measured change.sample
  samples_eq_nil_iff : a.samples = [] ↔ a.changes = []
  within : ∀ s last, a.samples.getLast? = some s → a.lastAnnounced? = some last → Within t last s

theorem isClose_opened : opened.IsClose t where
  measured _ h := by cases h
  samples_eq_nil_iff := iff_of_true rfl rfl
  within _ _ h := by cases h

theorem IsClose.note_of_notable (h : a.IsClose t) (ht : Tolerant t) (hs : Measured s) :
    (a.note s (some (Change.since a.lastAnnounced? s))).IsClose t where
  measured change hmem := by
    rcases List.mem_append.mp hmem with hmem | hmem
    · exact h.measured change hmem
    · rw [List.mem_singleton.mp hmem, Change.sample_since]
      exact hs
  samples_eq_nil_iff := iff_of_false (List.append_ne_nil_of_right_ne_nil _ (List.cons_ne_nil _ _))
    (List.append_ne_nil_of_right_ne_nil _ (List.cons_ne_nil _ _))
  within s' last hs' hlast := by
    rw [note, List.getLast?_concat] at hs'
    rw [lastAnnounced?, note, Option.toList_some, List.getLast?_concat, Option.map_some,
      Change.sample_since] at hlast
    obtain rfl := Option.some.inj hs'
    obtain rfl := Option.some.inj hlast
    exact ht.within_self hs

theorem IsClose.note_of_not_notable (h : a.IsClose t) (ht : Tolerant t) (hs : Measured s)
    (hnot : ¬(Change.since a.lastAnnounced? s).isNotable t = true) : (a.note s none).IsClose t := by
  rw [isNotable_since_iff, not_forall] at hnot
  obtain ⟨last, hnot⟩ := hnot
  obtain ⟨hlast, hexceeds⟩ := Classical.not_imp.mp hnot
  obtain ⟨change, hchange, rfl⟩ := Option.map_eq_some_iff.mp hlast
  have hmem := List.mem_of_getLast? hchange
  -- The announcement before stands, and the threshold was measured from it.
  have hchanges : (a.note s none).changes = a.changes := List.append_nil _
  refine ⟨?_, ?_, fun s' last' hs' hlast' => ?_⟩
  · rw [hchanges]
    exact h.measured
  · rw [hchanges]
    exact iff_of_false (List.append_ne_nil_of_right_ne_nil _ (List.cons_ne_nil _ _))
      (List.ne_nil_of_mem hmem)
  · rw [note, List.getLast?_concat] at hs'
    rw [lastAnnounced?, hchanges, ← lastAnnounced?, hlast] at hlast'
    obtain rfl := Option.some.inj hs'
    obtain rfl := Option.some.inj hlast'
    exact ht.within_of_not_exceeds (h.measured change hmem) hs hexceeds

theorem IsClose.note (h : a.IsClose t) (ht : Tolerant t) (hs : Measured s) :
    (a.note s (a.announce? t s)).IsClose t := by
  rw [announce?]
  split
  · exact h.note_of_notable ht hs
  · rename_i hnot
    exact h.note_of_not_notable ht hs hnot

theorem IsClose.exists_last (h : a.IsClose t) (hs : a.samples.getLast? = some s) :
    ∃ change, a.changes.getLast? = some change ∧ Within t change.sample s := by
  have hne : a.changes ≠ [] := by
    rw [ne_eq, ← h.samples_eq_nil_iff]
    exact List.ne_nil_of_mem (List.mem_of_getLast? hs)
  refine ⟨a.changes.getLast hne, List.getLast?_eq_some_getLast hne, h.within s _ hs ?_⟩
  rw [lastAnnounced?, List.getLast?_eq_some_getLast hne, Option.map_some]

end Account

/-! ## Runs -/

namespace Collector

variable {c : Collector} {p : TelemetryPolicy} {log : List Entry} {id : DeviceId} {a : Account}
  {s : Sample Float}

theorem Keeps.exists_slot (h : c.Keeps p log) (ha : Account.of? id log = some a) :
    ∃ slot, c.slots.get? id = some slot ∧ slot.Holds c.capacity id a := by
  cases hslot : c.slots.get? id with
  | none => cases (h.get?_eq_none_iff.mp hslot).symm.trans ha
  | some slot =>
    obtain ⟨a', ha', hholds⟩ := h.exists_account hslot
    obtain rfl := Option.some.inj (ha'.symm.trans ha)
    exact ⟨slot, rfl, hholds⟩

theorem Keeps.record_eq (h : c.Keeps p log) (ha : Account.of? s.deviceId log = some a)
    (hvalid : s.fault? = none) :
    ∃ slot, c.record s = .ok (c.taken s slot, a.announce? p.thresholds s) ∧
      (c.taken s slot).changes.sent = c.changes.sent ++ (a.announce? p.thresholds s).toList := by
  obtain ⟨slot, hslot, hholds⟩ := h.exists_slot ha
  have hchange : (slot.record c.thresholds s).2 = a.announce? p.thresholds s := by
    rw [Slot.change_record, hholds.announced_eq, h.thresholds_eq]
    rfl
  refine ⟨slot, ?_, by rw [← hchange]; rfl⟩
  obtain ⟨hnone, -⟩ | ⟨-, fault, -, hfault, -⟩ | ⟨slot', hslot', -, hrecord⟩ := c.record_cases s
  · cases hnone.symm.trans hslot
  · cases hfault.symm.trans hvalid
  · obtain rfl := Option.some.inj (hslot'.symm.trans hslot)
    rw [hrecord, hchange]

def AllClose (t : ChangeThresholds) (log : List Entry) : Prop :=
  ∀ id a, Account.of? id log = some a → a.IsClose t

theorem AllClose.perform (hclose : AllClose p.thresholds log) (h : c.Keeps p log)
    (ht : Tolerant p.thresholds) {operation : Operation}
    (hfits : ∀ s, operation = .record s → s.Fits) :
    AllClose p.thresholds (log ++ [⟨operation, (c.perform operation).2⟩]) := by
  intro id a ha
  rw [Account.of?_concat, Account.follow] at ha
  cases operation with
  | register id' =>
    dsimp only at ha
    split at ha
    · obtain rfl := Option.some.inj ha
      cases hold : Account.of? id log with
      | none => exact Account.isClose_opened
      | some a => exact hclose id a hold
    · exact hclose id a ha
  | remove id' =>
    dsimp only at ha
    split at ha
    · cases ha
    · exact hclose id a ha
  | record s =>
    dsimp only at ha
    split at ha
    · rename_i hand
      obtain ⟨rfl, hnone⟩ := hand
      have hvalid := Option.isNone_iff_eq_none.mp hnone
      obtain ⟨before, hbefore, rfl⟩ := Option.map_eq_some_iff.mp ha
      obtain ⟨slot, hrecord, -⟩ := h.record_eq hbefore hvalid
      have hannounced : (c.perform (.record s)).2 = before.announce? p.thresholds s := by
        rw [Collector.perform, hrecord]
        rfl
      rw [hannounced]
      exact (hclose _ before hbefore).note ht ⟨hvalid, hfits s rfl⟩
    · exact hclose id a ha
  | clear => cases ha

theorem allClose_run (hp : p.fault? = none) {operations : List Operation}
    (hfits : ∀ s, .record s ∈ operations → s.Fits) :
    AllClose p.thresholds ((start p).run operations).2 := by
  induction operations using List.reverseRecOn with
  | nil =>
    intro id a ha
    cases ha
  | append_singleton operations operation ih =>
    rw [run_concat]
    refine (ih fun s hs => hfits s (List.mem_append_left _ hs)).perform (keeps_run p operations)
      (tolerant_of_fault?_eq_none hp) fun s hs => hfits s ?_
    rw [hs]
    exact List.mem_append_right _ List.mem_cons_self

/-- What is announced of a sample, given what was announced of its device before. -/
structure Announces (t : ChangeThresholds) (a : Account) (s : Sample Float) (change? : Option Change) :
    Prop where
  isSome_iff : change?.isSome ↔
    a.samples = [] ∨ ∃ last, a.changes.getLast? = some last ∧ Exceeds t last.sample s
  sample_eq : ∀ change, change? = some change → change.sample = s
  first : a.samples = [] → ∀ change, change? = some change →
    change.isFirst = true ∧ change.utilizationDelta = 0 ∧ change.temperatureDelta = 0 ∧
      change.memoryDelta = 0
  later : ∀ last, a.changes.getLast? = some last → ∀ change, change? = some change →
    change.isFirst = false ∧
      change.utilizationDelta = s.utilization - last.sample.utilization ∧
      change.temperatureDelta = s.temperature - last.sample.temperature ∧
      change.memoryDelta = s.usedFraction - last.sample.usedFraction

/-- Announcements bound the drift of every device, and are made as soon as a sample is too far. -/
structure BoundsDrift (c : Collector) (t : ChangeThresholds) (log : List Entry) : Prop where
  accepts_iff : ∀ s, (∃ c' change?, c.record s = .ok (c', change?)) ↔
    (Account.of? s.deviceId log).isSome ∧ s.fault? = none
  within : ∀ id s, c.current? id = some s → ∃ a last, Account.of? id log = some a ∧
    a.changes.getLast? = some last ∧ Within t last.sample s
  announces : ∀ s c' change?, c.record s = .ok (c', change?) → ∃ a,
    Account.of? s.deviceId log = some a ∧ Announces t a s change? ∧
      c'.changes.sent = c.changes.sent ++ change?.toList
  sent_eq : c.changes.sent = log.filterMap Entry.announced

theorem announces_announce? {t : ChangeThresholds} (h : a.IsClose t) (s : Sample Float) :
    Announces t a s (a.announce? t s) := by
  have hchange : ∀ change, a.announce? t s = some change →
      change = Change.since a.lastAnnounced? s := by
    intro change hchange
    rw [Account.announce?] at hchange
    split at hchange
    · exact (Option.some.inj hchange).symm
    · cases hchange
  have hlast : ∀ last, a.changes.getLast? = some last → a.lastAnnounced? = some last.sample := by
    intro last hlast
    rw [Account.lastAnnounced?, hlast, Option.map_some]
  have hnone : a.samples = [] → a.lastAnnounced? = none := by
    intro hnil
    rw [Account.lastAnnounced?, h.samples_eq_nil_iff.mp hnil]
    rfl
  refine ⟨?_, fun change hsome => ?_, fun hnil change hsome => ?_, fun last hl change hsome => ?_⟩
  · have hiff : (a.announce? t s).isSome ↔ ∀ l, a.lastAnnounced? = some l → Exceeds t l s := by
      rw [← isNotable_since_iff, Account.announce?]
      split <;> simp [*]
    rw [hiff]
    constructor
    · intro hexceeds
      by_cases hnil : a.samples = []
      · exact Or.inl hnil
      · have hne := h.samples_eq_nil_iff.not.mp hnil
        have hget := List.getLast?_eq_some_getLast hne
        exact Or.inr ⟨_, hget, hexceeds _ (hlast _ hget)⟩
    · rintro (hnil | ⟨last, hl, hexceeds⟩) l hsome
      · cases (hnone hnil).symm.trans hsome
      · obtain rfl := Option.some.inj ((hlast last hl).symm.trans hsome)
        exact hexceeds
  · rw [hchange change hsome, Change.sample_since]
  · rw [hchange change hsome, hnone hnil]
    exact ⟨rfl, rfl, rfl, rfl⟩
  · rw [hchange change hsome, hlast last hl]
    exact ⟨rfl, rfl, rfl, rfl⟩

/--
At every point of every run the current sample of a device is within the thresholds of the sample that
was announced last since the device was registered. The next valid sample of a registered device is
taken in, and announced exactly when it is the first one or would leave the thresholds.
-/
theorem boundsDrift_run (p : TelemetryPolicy) (operations : List Operation) (hp : p.fault? = none)
    (hfits : ∀ s, .record s ∈ operations → s.Fits) :
    ((start p).run operations).1.BoundsDrift p.thresholds ((start p).run operations).2 := by
  have h := keeps_run p operations
  have hclose := allClose_run hp hfits
  refine ⟨h.accepts_iff, fun id s hcurrent => ?_, fun s c' change? hrecord => ?_, h.sent_eq⟩
  · rw [current?, Option.bind_eq_some_iff] at hcurrent
    obtain ⟨slot, hslot, hcurrent⟩ := hcurrent
    obtain ⟨a, ha, hholds⟩ := h.exists_account hslot
    rw [hholds.current_eq] at hcurrent
    obtain ⟨last, hlast, hwithin⟩ := (hclose id a ha).exists_last hcurrent
    exact ⟨a, last, ha, hlast, hwithin⟩
  · obtain ⟨hsome, hvalid⟩ := (h.accepts_iff s).mp ⟨c', change?, hrecord⟩
    obtain ⟨a, ha⟩ := Option.isSome_iff_exists.mp hsome
    obtain ⟨slot, hrecord', hsent⟩ := h.record_eq ha hvalid
    cases hrecord.symm.trans hrecord'
    exact ⟨a, ha, announces_announce? (hclose _ a ha) s, hsent⟩

/-- Each sample is close to the one before it, and the third one is far from the first. -/
theorem boundsDrift_of_rising_utilization :
    let sample (utilization : Float) : Sample Float :=
      ⟨"gpu", .epoch, 4, 16, utilization, 200, 60, 1500⟩
    let operations : List Operation :=
      [.register "gpu", .record (sample 50), .record (sample 54), .record (sample 58)]
    let p : TelemetryPolicy := {}
    p.fault? = none ∧ (∀ s, .record s ∈ operations → s.Fits) ∧
      ((start p).run operations).1.BoundsDrift p.thresholds ((start p).run operations).2 := by
  intro sample operations p
  have hvalid : ({} : TelemetryPolicy).fault?.isNone = true := by decide
  have hp : p.fault? = none := Option.isNone_iff_eq_none.mp hvalid
  have hfits : ∀ s, .record s ∈ operations → s.Fits := by
    intro s hs
    simp only [operations, List.mem_cons, reduceCtorEq, Operation.record.injEq, List.not_mem_nil,
      or_false, false_or] at hs
    rcases hs with rfl | rfl | rfl <;> exact ⟨by decide, by decide, by decide⟩
  exact ⟨hp, hfits, boundsDrift_run p operations hp hfits⟩

end Collector

end Telemetry

end GpuCluster
