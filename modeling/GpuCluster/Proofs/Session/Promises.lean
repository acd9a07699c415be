import Mathlib
import GpuCluster.Proofs.Session.Holdings

/-!
# Memory that is promised

A placement is solved on the memory that the devices have free by their current samples, and what
earlier assignments have been promised is not taken off. So each assignment fits what its devices have
free, and does so as long as they send no other samples, but several assignments together may not.
-/

namespace GpuCluster.Session

/-- The bytes that an assignment puts on a device. -/
def bytesOn (a : Placement.Assignment) (d : DeviceId) : Nat := (a.bytes.get? d).getD 0

/-- A placement has taken its pool, and no sample of the device has been accepted since. -/
def AdmittedSince (log : List Event) (id : AssignmentId) (d : DeviceId) : Prop :=
  (Event.admitted id).Lasts (· = .sampled d) log

variable {s t : Session} {log events : List Event} {id : AssignmentId} {a : Placement.Assignment}
  {d : DeviceId}

/-! ## One placement -/

theorem bytesOn_of_solve (h : Listed s) {r : Placement.Request}
    (hsolve : Placement.solve s.config.placement r s.pool = .ok a) (d : DeviceId) :
    bytesOn a d = (∑ i : Fin r.sizes.length, if a.deviceFor? i = some d then r.sizes.get i else 0) ∧
      bytesOn a d ≤ (s.freeOn? d).getD 0 := by
  obtain ⟨-, device, hmeets, hfollows⟩ := Placement.exists_follows_of_solve h.nodup_pool hsolve
  cases hbytes : a.bytes.get? d with
  | none =>
    rw [bytesOn, hbytes]
    refine ⟨(Finset.sum_eq_zero fun i _ => if_neg fun hshard => ?_).symm, Nat.zero_le _⟩
    exact Table.get?_eq_none_iff.mp hbytes (hfollows.mem_bytes_iff.mpr ⟨i, hshard⟩)
  | some bytes =>
    obtain ⟨p, hp, rfl, hle⟩ := hfollows.bytes_le_free hmeets hbytes
    rw [bytesOn, hbytes, h.freeOn?_of_mem_pool hp]
    exact ⟨hfollows.bytes_eq_sum hbytes, hle⟩

/-! ## Runs -/

/-- A change makes no memory free of which no sample tells. -/
theorem Change.of_freeOn? (hc : Change s t events) (haligned : Aligned s) (hd : .sampled d ∉ events)
    {free : Nat} (h : t.freeOn? d = some free) : s.freeOn? d = some free := by
  obtain ⟨entry, sample, hentry, hsample, hfree⟩ := freeOn?_eq_some_iff.mp h
  cases hc with
  | same hsame =>
    rw [hsame.current? d fun hmem => hd (List.mem_map_of_mem hmem)] at hsample
    -- A device with a current sample was registered before, with the same memory.
    obtain ⟨slot, hslot, -⟩ := Option.bind_eq_some_iff.mp hsample
    have hmem := (haligned.mem_slots d).mp (Table.mem_of_get? hslot)
    obtain ⟨entry', hentry'⟩ := Table.mem_iff_get?.mp hmem
    obtain ⟨entry'', hsome, hdevice⟩ := hsame.device d entry' hentry'
    obtain rfl := Option.some.inj (hentry.symm.trans hsome)
    exact freeOn?_eq_some_iff.mpr ⟨entry', sample, hentry', hsample, hdevice ▸ hfree⟩
  | @removed d' =>
    obtain ⟨hne, hentry⟩ := Table.get?_erase_eq_some_iff.mp hentry
    rw [Telemetry.Collector.remove, Telemetry.Collector.current?, Table.get?_erase,
      if_neg (Ne.symm hne)] at hsample
    exact freeOn?_eq_some_iff.mpr ⟨entry, sample, hentry, hsample, hfree⟩
  | forgotten _ hregistry =>
    rw [hregistry] at hentry
    cases hentry
  | _ => exact h

theorem Change.eq_next_of_admitted (hc : Change s t events) (h : .admitted id ∈ events) :
    id = s.nextAssignment := by
  cases hc with
  | admitted => simpa using h
  | placed => simpa using h
  | _ => simp at h

theorem Outstanding.lt_next (h : Outstanding s id a) (hnumbered : Numbered s) :
    id < s.nextAssignment :=
  hnumbered.lt_next id (h.imp Table.mem_of_get? fun ⟨_, hpending⟩ => Table.mem_of_get? hpending)

/-- An outstanding assignment fits what a device has free, as long as the sample is current on which it
was solved. -/
def Fits (s : Session) (log : List Event) : Prop :=
  ∀ id a d free, Outstanding s id a → AdmittedSince log id d → s.freeOn? d = some free →
    bytesOn a d ≤ free

theorem Fits.change (h : Fits s log) (hbooked : Booked s log) (haligned : Aligned s)
    (hc : Change s t events) : Fits t (log ++ events) := by
  intro id a d free hout hadmitted hfree
  rcases hc.of_outstanding hout with hold | ⟨-, hquiet, r, hsolve⟩
  · have hearlier : .admitted id ∉ events := fun hmem =>
      (hold.lt_next hbooked.toNumbered).ne (hc.eq_next_of_admitted hmem)
    obtain ⟨hadmitted, hquiet⟩ := (Event.lasts_append_of_not_mem hearlier).mp hadmitted
    refine h id a d free hold hadmitted (hc.of_freeOn? haligned (fun hmem => ?_) hfree)
    exact hquiet _ hmem rfl
  · have hle := (bytesOn_of_solve hbooked.listed hsolve d).2
    rwa [hc.of_freeOn? haligned (hquiet d) hfree] at hle

theorem Run.fits (h : Run s log) : Fits s log := by
  refine Run.induction (fun config => ?_) (fun hrun ih hc => ?_) h
  · rintro id a d free (hstored | ⟨era, hpending⟩)
    · cases hstored
    · cases hpending
  · exact ih.change hrun.booked hrun.reachable.coherent.aligned hc

/--
The bytes that a placement puts on a device are those of the shards that it places there, and the
device has them free by its current sample. An assignment that is stored fits what a device has free by
its current sample, if its placement was admitted since this was accepted. Both are about one assignment
at a time.
-/
theorem each_assignment_fits (h : Run s log) (hready : s.phase = .ready) :
    (∀ r t id a, s.placeShards r = (t, .ok (id, a)) → ∀ d,
      bytesOn a d = (∑ i : Fin r.sizes.length, if a.deviceFor? i = some d then r.sizes.get i else 0) ∧
      bytesOn a d ≤ (s.freeOn? d).getD 0) ∧
    ∀ id a d free, s.assignment id = .ok (some a) → AdmittedSince log id d →
      s.freeOn? d = some free → bytesOn a d ≤ free := by
  constructor
  · intro r t id a heq d
    exact bytesOn_of_solve h.listed (solve_of_placeShards hready heq) d
  · intro id a d free hstored
    rw [assignment, query_of_ready hready, Except.ok.injEq] at hstored
    exact h.fits id a d free (Or.inl hstored)

/-- A shard of 10 bytes on a device with 16 bytes free. -/
theorem each_assignment_fits_of_lone :
    ∃ s a, Run s [.started, .sampled "gpu", .admitted 0, .placed 0 a] ∧ s.phase = .ready ∧
      s.assignment 0 = .ok (some a) ∧ s.freeOn? "gpu" = some 16 ∧ bytesOn a "gpu" = 10 ∧
      bytesOn a "gpu" ≤ 16 := by
  obtain ⟨s, a, heq, hs, hready, hstored, -, hbytes⟩ := placeShards_lone (by decide : 10 ≤ 16)
  have hrun := run_lone.placeShards heq
  have hfree : s.freeOn? "gpu" = some 16 := by
    rw [hs]
    rfl
  have hadmitted : AdmittedSince [.started, .sampled "gpu", .admitted 0, .placed 0 a] 0 "gpu" :=
    ⟨[.started, .sampled "gpu"], [.placed 0 a], rfl, by simp⟩
  refine ⟨s, a, hrun, hready, hstored, hfree, ?_, ?_⟩
  · rw [bytesOn, hbytes]
    rfl
  · exact (each_assignment_fits hrun hready).2 0 a "gpu" 16 hstored hadmitted hfree

/-- Two placements of 10 bytes each, after one sample of a device with 16 bytes free: both succeed. -/
theorem two_assignments_exceed_free :
    let r : Placement.Request := ⟨[10], [], none, none⟩
    let s := (lone.placeShards r).1
    ∃ a b, Run s [.started, .sampled "gpu", .admitted 0, .placed 0 a] ∧ s.phase = .ready ∧
      s.assignment 0 = .ok (some a) ∧ (s.placeShards r).2 = .ok (1, b) ∧
      s.freeOn? "gpu" = some 16 ∧ 16 < bytesOn b "gpu" + bytesOn a "gpu" := by
  intro r
  obtain ⟨s, a, heq, hs, hready, hstored, -, ha⟩ := placeShards_lone (by decide : 10 ≤ 16)
  have hrun := run_lone.placeShards heq
  obtain ⟨d, hpool, hid, hfree⟩ := pool_lone
  have ht : lone.config.placement.timeoutMs ≠ 0 := by decide
  -- The second placement is solved on the same pool as the first one.
  obtain ⟨t, b, heq', -, -, hb⟩ := placeShards_singleton hrun.listed hready (hs ▸ ht) (hs ▸ hpool)
    (hfree ▸ (by decide : 10 ≤ 16))
  rw [heq]
  refine ⟨a, b, hrun, hready, hstored, ?_, ?_, ?_⟩
  · rw [heq', hs]
  · rw [hs]
    rfl
  · rw [bytesOn, bytesOn, ha, ← hid, hb]
    decide

end GpuCluster.Session
