import Mathlib
import GpuCluster.Proofs.Placement.Single
import GpuCluster.Proofs.Ranking
import GpuCluster.Proofs.Session.Holdings

/-!
# Selecting a device and placing one shard

The scores of the eligible devices and the devices of the pool are made from the same candidates, have
the same memory free and are ranked alike. So a request for one shard is solved exactly when a device
can be selected for it, and by that device.
-/

namespace GpuCluster.Session

open Placement (PoolDevice Request tryOrder)

variable {s : Session} {size : Nat}

section Candidates

variable (p : ScoringPolicy Float)

/-- The device of the pool that a candidate makes. -/
def poolDevice (c : Candidate Float) : PoolDevice :=
  .of c.device c.sample (Score.ofDoubles p c).value

/-- The candidates in the order of their scores. -/
def rankCandidates (candidates : List (Candidate Float)) : List (Candidate Float) :=
  candidates.mergeSort fun c d => (Score.ofDoubles p c).precedes (Score.ofDoubles p d)

theorem rankAll_eq_map (candidates : List (Candidate Float)) :
    Score.rankAll p candidates = (rankCandidates p candidates).map (Score.ofDoubles p) := by
  rw [Score.rankAll, rankCandidates]
  refine (List.map_mergeSort ?_).symm
  exact fun _ _ _ _ => rfl

theorem tryOrder_map_poolDevice (candidates : List (Candidate Float)) :
    tryOrder (candidates.map (poolDevice p)) = (rankCandidates p candidates).map (poolDevice p) := by
  rw [tryOrder, rankCandidates]
  refine (List.map_mergeSort ?_).symm
  exact fun _ _ _ _ => rfl

end Candidates

/-- The first candidate, by score, with enough memory free. -/
def bestCandidate? (s : Session) (size : Nat) : Option (Candidate Float) :=
  (rankCandidates s.config.scoring s.eligible).find? fun c =>
    size ≤ (poolDevice s.config.scoring c).free

theorem selectBest_eq_map (s : Session) (size : Nat) :
    Score.selectBest s.config.scoring s.eligible size =
      (s.bestCandidate? size).map (Score.ofDoubles s.config.scoring) := by
  rw [Score.selectBest_eq_find?, rankAll_eq_map, List.find?_map]
  rfl

theorem find?_tryOrder_pool (s : Session) (size : Nat) :
    (tryOrder s.pool).find? (size ≤ ·.free) =
      (s.bestCandidate? size).map (poolDevice s.config.scoring) := by
  rw [show s.pool = s.eligible.map (poolDevice s.config.scoring) from rfl, tryOrder_map_poolDevice,
    List.find?_map]
  rfl

theorem selectBestDevice_eq (hready : s.phase = .ready) (size : Nat) :
    s.selectBestDevice size =
      .ok ((s.bestCandidate? size).map (Score.ofDoubles s.config.scoring)) := by
  rw [selectBestDevice, query_of_ready hready, selectBest_eq_map]

/--
A request for one shard is placed exactly when a device can be selected for the bytes of the shard, and
the shard then goes to that device. This holds under every placement policy, so that it matters neither
whether the pool counts as heterogeneous nor how much time there is for the search.
-/
theorem placeShards_single_iff_selectBestDevice (h : Reachable s) (hready : s.phase = .ready)
    (size : Nat) :
    ((∃ t id a, s.placeShards (.single size) = (t, .ok (id, a))) ↔
      ∃ best, s.selectBestDevice size = .ok (some best)) ∧
    ∀ best, s.selectBestDevice size = .ok (some best) →
      (∃ t a, s.placeShards (.single size) = (t, .ok (s.nextAssignment, a)) ∧
        a.deviceFor? 0 = some best.deviceId) ∧
      ∀ policy, ∃ a, Placement.solve policy (.single size) s.pool = .ok a ∧
        a.deviceFor? 0 = some best.deviceId := by
  have hplace := h.listed.placeShards_eq (r := .single size) hready (List.forall_mem_nil _)
  have hselected : ∀ best, s.selectBestDevice size = .ok (some best) → ∀ policy, ∃ a,
      Placement.solve policy (.single size) s.pool = .ok a ∧
        a.deviceFor? 0 = some best.deviceId := by
    intro best hbest policy
    rw [selectBestDevice_eq hready, Except.ok.injEq, Option.map_eq_some_iff] at hbest
    obtain ⟨c, hc, rfl⟩ := hbest
    have hfind := find?_tryOrder_pool s size
    rw [hc] at hfind
    exact Placement.solve_single_of_find?_eq_some hfind
  have hplaced : ∀ best, s.selectBestDevice size = .ok (some best) → ∃ t a,
      s.placeShards (.single size) = (t, .ok (s.nextAssignment, a)) ∧
        a.deviceFor? 0 = some best.deviceId := by
    intro best hbest
    obtain ⟨a, hsolve, hdevice⟩ := hselected best hbest s.config.placement
    rw [hplace, hsolve]
    exact ⟨_, a, rfl, hdevice⟩
  refine ⟨⟨?_, ?_⟩, fun best hbest => ⟨hplaced best hbest, hselected best hbest⟩⟩
  · rintro ⟨t, id, a, hok⟩
    cases hbest : s.bestCandidate? size with
    | some c => exact ⟨_, by rw [selectBestDevice_eq hready, hbest, Option.map_some]⟩
    | none =>
      have hfind := find?_tryOrder_pool s size
      rw [hbest] at hfind
      obtain ⟨failure, hsolve⟩ := Placement.solve_single_of_find?_eq_none hfind
      rw [hplace, hsolve] at hok
      cases hok
  · rintro ⟨best, hbest⟩
    obtain ⟨t, a, hok, -⟩ := hplaced best hbest
    exact ⟨t, _, a, hok⟩

/-- The device of `lone` has exactly 16 bytes free. -/
theorem placeShards_single_iff_selectBestDevice_of_lone :
    (∃ best, lone.selectBestDevice 16 = .ok (some best) ∧ best.deviceId = "gpu" ∧
      ∃ t a, lone.placeShards (.single 16) = (t, .ok (0, a)) ∧ a.deviceFor? 0 = some "gpu") ∧
    ¬∃ t id a, lone.placeShards (.single 17) = (t, .ok (id, a)) := by
  have hreachable : Reachable lone := run_lone.reachable
  have hready : lone.phase = .ready := by decide +kernel
  constructor
  · obtain ⟨hiff, hselected⟩ := placeShards_single_iff_selectBestDevice hreachable hready 16
    obtain ⟨t, a, hok, -, -, -, hgpu, -⟩ := placeShards_lone (Nat.le_refl 16)
    obtain ⟨best, hbest⟩ := hiff.mp ⟨t, 0, a, hok⟩
    obtain ⟨⟨t', a', hok', hdevice⟩, -⟩ := hselected best hbest
    have hsame : (t, Except.ok (0, a)) = (t', Except.ok (lone.nextAssignment, a')) :=
      hok.symm.trans hok'
    obtain ⟨-, rfl⟩ := Prod.mk.inj (Except.ok.inj (Prod.mk.inj hsame).2)
    exact ⟨best, hbest, Option.some.inj (hdevice.symm.trans hgpu), t, a, hok, hgpu⟩
  · rw [(placeShards_single_iff_selectBestDevice hreachable hready 17).1]
    rintro ⟨best, hbest⟩
    obtain ⟨d, hpool, -, hfree⟩ := pool_lone
    have hfind := find?_tryOrder_pool lone 17
    rw [hpool, tryOrder, List.mergeSort_singleton, List.find?_singleton, hfree] at hfind
    rw [selectBestDevice_eq hready, Except.ok.injEq, Option.map_eq_some_iff] at hbest
    obtain ⟨c, hc, -⟩ := hbest
    rw [hc] at hfind
    cases hfind

end GpuCluster.Session
