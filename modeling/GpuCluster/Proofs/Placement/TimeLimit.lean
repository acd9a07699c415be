import Mathlib
import GpuCluster.Proofs.Placement.FirstChoice

/-!
# The time limit of the search

Without time for the search a request is placed as first fit has it, or not at all. With time no request
is lost that was placed without, a pool of like devices is filled in the same way, and a request that
cannot be met is refused in the same words.
-/

namespace GpuCluster.Placement

variable {policy : PlacementPolicy} {r : Request} {pool : List PoolDevice}

/-! ## Refusals -/

/-- What is said of a request that is not met. -/
def refusal (r : Request) (pool : List PoolDevice) : Refusal :=
  if r.sizes.isEmpty then .noShards
  else match eligible r pool with
  | .error failure => .infeasible failure
  | .ok _ =>
    let tooLarge := oversized r.sizes (largest (contendingFree r pool))
    let leftOver := refusedShards (firstFit r.sizes (contendingFree r pool)) r.sizes 0
    .infeasible ⟨if tooLarge.isEmpty then leftOver else tooLarge, r.totalBytes,
      totalFree (contenders r pool)⟩

theorem eq_refusal_of_solve_eq_error {e : Refusal} (h : solve policy r pool = .error e) :
    e = refusal r pool := by
  rw [solve] at h
  rw [refusal]
  unfold contendingFree contenders
  split at h
  · rename_i hempty
    rw [if_pos hempty]
    exact (Except.error.inj h).symm
  · rename_i hempty
    rw [if_neg hempty]
    cases he : eligible r pool with
    | error failure =>
      rw [he] at h
      exact (Except.error.inj h).symm
    | ok devices =>
      obtain rfl := eq_of_eligible_eq_ok he
      rw [he] at h
      dsimp only at h ⊢
      -- The policy decides only whether an arrangement is found, not what is reported if there is none.
      split at h
      · rename_i hlarge
        rw [if_neg (by simpa using hlarge)]
        exact (Except.error.inj h).symm
      · rename_i hlarge
        rw [if_pos (by simpa using hlarge)]
        split at h
        · exact (Except.error.inj h).symm
        · split at h
          · cases h
          · exact (Except.error.inj h).symm

/-! ## Arrangements by first fit -/

variable {sizes free : List Nat} {placed : List (Nat × Nat)}

theorem arrange_zero_of_firstFitAll? (heterogeneous : Bool)
    (h : firstFitAll? sizes free = some placed) :
    arrange 0 heterogeneous sizes free =
      (some placed, if heterogeneous then .greedyFallback else .greedy) := by
  cases heterogeneous <;> simp [arrange, searchOrFirstFit, h]

theorem arrange_of_firstFitAll? (timeoutMs : Nat) (h : firstFitAll? sizes free = some placed) :
    arrange timeoutMs false sizes free = (some placed, .greedy) := by
  simp [arrange, h]

theorem firstFitAll?_of_arrange_zero {heterogeneous : Bool} {method : Method}
    (h : arrange 0 heterogeneous sizes free = (some placed, method)) :
    firstFitAll? sizes free = some placed := by
  cases hfit : firstFitAll? sizes free with
  | none => cases heterogeneous <;> simp [arrange, searchOrFirstFit, hfit] at h
  | some found =>
    rw [arrange_zero_of_firstFitAll? heterogeneous hfit] at h
    rw [(Prod.mk.inj h).1]

/-! ## Solutions without time -/

variable {a : Assignment}

theorem sizes_ne_nil_of_solve (h : solve policy r pool = .ok a) : r.sizes ≠ [] := by
  intro hnil
  simp [solve, hnil] at h

theorem exists_firstFitAll?_of_solve (ht : policy.timeoutMs = 0) (h : solve policy r pool = .ok a) :
    ∃ placed, firstFitAll? r.sizes (contendingFree r pool) = some placed := by
  rcases solve_cases policy pool (sizes_ne_nil_of_solve h) with
    ⟨failure, herror⟩ | ⟨placed, _, _, harrange, -⟩
  · rw [herror] at h
    cases h
  · rw [ht] at harrange
    exact ⟨placed, firstFitAll?_of_arrange_zero harrange⟩

theorem solve_of_firstFitAll? (hn : r.sizes ≠ []) (ht : policy.timeoutMs = 0)
    (h : firstFitAll? r.sizes (contendingFree r pool) = some placed) :
    let heterogeneous :=
      isHeterogeneous (contenders r pool) policy.memoryTolerance policy.utilizationTolerance
    solve policy r pool = .ok (.of (named (contenders r pool) placed) r.sizes
      (if heterogeneous then .greedyFallback else .greedy) heterogeneous) := by
  apply solve_of_arrange hn (isPacking_of_firstFitAll? h)
  rw [ht]
  exact arrange_zero_of_firstFitAll? _ h

/-- A pool of like devices is filled by first fit whatever the limit. -/
theorem solve_of_firstFitAll?_of_like (hn : r.sizes ≠ [])
    (hlike : isHeterogeneous (contenders r pool) policy.memoryTolerance policy.utilizationTolerance =
      false)
    (h : firstFitAll? r.sizes (contendingFree r pool) = some placed) :
    solve policy r pool = .ok (.of (named (contenders r pool) placed) r.sizes .greedy false) := by
  have harrange : arrange policy.timeoutMs
      (isHeterogeneous (contenders r pool) policy.memoryTolerance policy.utilizationTolerance)
      r.sizes (contendingFree r pool) = (some placed, .greedy) := by
    rw [hlike]
    exact arrange_of_firstFitAll? policy.timeoutMs h
  have hsolve := solve_of_arrange hn (isPacking_of_firstFitAll? h) harrange
  rw [hlike] at hsolve
  exact hsolve

/--
Without time for the search a request with shards is placed exactly when first fit finds a device for
every shard, and then on those devices. Whatever is placed without time is also placed with time, on a
pool of like devices in the same way, and what is refused with and without is refused for the same
reasons.
-/
theorem first_fit_decides_without_time (policy : PlacementPolicy) (r : Request)
    (hids : (pool.map (·.id)).Nodup) :
    let within (timeoutMs : Nat) := solve { policy with timeoutMs } r pool
    let heterogeneous :=
      isHeterogeneous (contenders r pool) policy.memoryTolerance policy.utilizationTolerance
    (∃! choice : Choice r, choice.FirstFits pool) ∧
    (∀ choice : Choice r, choice.FirstFits pool →
      (r.sizes ≠ [] → ((∃ a, within 0 = .ok a) ↔ ∀ i, (choice i).isSome)) ∧
      ∀ a, within 0 = .ok a →
        a.placements.keys = List.range r.sizes.length ∧
        (∀ i : Fin r.sizes.length, a.deviceFor? i = choice i) ∧
        a.method = if heterogeneous then .greedyFallback else .greedy) ∧
    ∀ timeoutMs, timeoutMs ≠ 0 →
      ((∃ a, within 0 = .ok a) → ∃ a, within timeoutMs = .ok a) ∧
      (heterogeneous = false → ∀ a, within 0 = .ok a → within timeoutMs = .ok a) ∧
      ∀ e e', within 0 = .error e → within timeoutMs = .error e' → e = e' := by
  intro within heterogeneous
  have hfirst : (firstChoice r pool).FirstFits pool := firstFits_firstChoice hids
  have hplaced : ∀ a, within 0 = .ok a →
      r.sizes ≠ [] ∧ ∃ placed, firstFitAll? r.sizes (contendingFree r pool) = some placed :=
    fun a ha => ⟨sizes_ne_nil_of_solve ha, exists_firstFitAll?_of_solve rfl ha⟩
  refine ⟨⟨_, hfirst, fun choice h => h.unique hfirst⟩, fun choice hchoice => ?_, fun timeoutMs ht => ?_⟩
  · obtain rfl := hchoice.unique hfirst
    refine ⟨fun hn => ⟨?_, ?_⟩, fun a ha => ?_⟩
    · rintro ⟨a, ha⟩
      exact exists_firstFitAll?_iff.mp (hplaced a ha).2
    · intro hall
      obtain ⟨placed, hfit⟩ := exists_firstFitAll?_iff.mpr hall
      exact ⟨_, solve_of_firstFitAll? hn rfl hfit⟩
    · obtain ⟨hn, placed, hfit⟩ := hplaced a ha
      obtain rfl := Except.ok.inj (ha.symm.trans (solve_of_firstFitAll? hn rfl hfit))
      exact ⟨keys_named (isPacking_of_firstFitAll? hfit).perm, get?_named_of_firstFitAll? hfit, rfl⟩
  · refine ⟨?_, fun hlike a ha => ?_, fun e e' he he' => ?_⟩
    · rintro ⟨a, ha⟩
      obtain ⟨hn, placed, hfit⟩ := hplaced a ha
      exact exists_solve_of_isPacking hn ht (isPacking_of_firstFitAll? hfit)
    · obtain ⟨hn, placed, hfit⟩ := hplaced a ha
      have hzero : within 0 = _ := solve_of_firstFitAll?_of_like hn hlike hfit
      have hlimit : within timeoutMs = _ := solve_of_firstFitAll?_of_like hn hlike hfit
      exact hlimit.trans (hzero.symm.trans ha)
    · rw [eq_refusal_of_solve_eq_error he, eq_refusal_of_solve_eq_error he']

/-- First fit gives the first device the shards that it can hold, and the rest to the second. -/
theorem first_fit_decides_without_time_of_two :
    let device (id : DeviceId) (free : Nat) : PoolDevice := ⟨id, free, free, 0, [], none, .double 0⟩
    let r : Request := ⟨[3, 4, 2], [], none, none⟩
    ∃ a, solve { timeoutMs := 0 } r [device "a" 8, device "b" 4] = .ok a ∧
      a.deviceFor? 0 = some "a" ∧ a.deviceFor? 1 = some "a" ∧ a.deviceFor? 2 = some "b" ∧
      ∃ a', solve { timeoutMs := 5000 } r [device "a" 8, device "b" 4] = .ok a' := by
  intro device r
  have hids : ([device "a" 8, device "b" 4].map (·.id)).Nodup := by simp [device]
  have horder : contenders r [device "a" 8, device "b" 4] = [device "a" 8, device "b" 4] := by
    have hfirst : precedes (device "a" 8) (device "b" 4) = true := by
      change ((compare _ (Number.Extended.rank (.double 0))).then (compare "a" "b")).isLE = true
      rw [compare_eq_iff_eq.mpr rfl]
      decide
    exact List.mergeSort_of_pairwise (List.pairwise_pair.mpr hfirst)
  have hchoice : firstChoice r [device "a" 8, device "b" 4] = ![some "a", some "a", some "b"] := by
    funext i
    rw [firstChoice, contendingFree, horder]
    fin_cases i <;> rfl
  have hfits : Choice.FirstFits (r := r) ![some "a", some "a", some "b"] _ :=
    hchoice ▸ firstFits_firstChoice hids
  obtain ⟨-, hzero, htime⟩ := first_fit_decides_without_time {} r hids
  obtain ⟨hiff, hdevices⟩ := hzero _ hfits
  obtain ⟨a, ha⟩ := (hiff (by simp [r])).mpr fun i => by fin_cases i <;> rfl
  obtain ⟨-, hdevice, -⟩ := hdevices a ha
  exact ⟨a, ha, hdevice 0, hdevice 1, hdevice 2, (htime 5000 (by decide)).1 ⟨a, ha⟩⟩

/-- First fit finds a device for each of no shards, but such a request is refused. -/
theorem first_fit_of_no_shards_is_refused :
    let r : Request := ⟨[], [], none, none⟩
    let pool : List PoolDevice := [⟨"gpu", 16, 16, 0, [], none, .double 0⟩]
    (pool.map (·.id)).Nodup ∧ (∃ devices, eligible r pool = .ok devices) ∧
      oversized r.sizes (largest (contendingFree r pool)) = [] ∧
      r.totalBytes ≤ totalFree (contenders r pool) ∧
      (∃ choice : Choice r, choice.FirstFits pool ∧ ∀ i, (choice i).isSome) ∧
      ¬∃ a, solve { timeoutMs := 0 } r pool = .ok a := by
  intro r pool
  refine ⟨by simp [pool], ⟨pool, rfl⟩, rfl, Nat.zero_le _, ⟨firstChoice r pool, ?_, ?_⟩, ?_⟩
  · exact firstFits_firstChoice (by simp [pool])
  · exact fun i => i.elim0
  · rintro ⟨a, ha⟩
    exact sizes_ne_nil_of_solve ha rfl

end GpuCluster.Placement
