import Mathlib
import GpuCluster.Proofs.Placement.Positions
import GpuCluster.Proofs.Session.Selection

/-!
# The registry in any order

A walk through the registry may come upon the devices in any order. What a session answers about the
eligible devices, and what it places on them, depends on which devices there are and not on the walk.
-/

namespace GpuCluster.Session

open Placement (PoolDevice Request solveInPlace)

/-- The eligible devices in the order of a walk through the registry. -/
def eligibleAlong (s : Session) (walk : List RegisteredDevice) : List (Candidate Float) :=
  walk.filterMap s.candidate?

def rankDevicesAlong (s : Session) (walk : List RegisteredDevice) :
    Except Error (List (Score Number.Extended)) :=
  s.query "rank_devices" (.ok (Score.rankAll s.config.scoring (s.eligibleAlong walk)))

def selectBestDeviceAlong (s : Session) (walk : List RegisteredDevice) (minFree : Nat) :
    Except Error (Option (Score Number.Extended)) :=
  s.query "select_best_device"
    (.ok (Score.selectBest s.config.scoring (s.eligibleAlong walk) minFree))

/-- Places shards on a pool that is left in the order of a walk. -/
def placeShardsAlong (s : Session) (walk : List RegisteredDevice) (r : Request) :
    Reply (AssignmentId × Placement.Assignment) :=
  s.call "place_shards"
    (match r.candidates.find? (!s.isRegistered ·) with
    | some id => (s, .error (.unknownDevice id))
    | none =>
      let pool := (s.eligibleAlong walk).map (poolDevice s.config.scoring)
      match s.confirm (solveInPlace s.config.placement r pool) with
      | .error e => (s, .error e)
      | .ok a =>
        ({ s with
          assignments := s.assignments.insert s.nextAssignment a
          nextAssignment := s.nextAssignment + 1 }, .ok (s.nextAssignment, a)))

section Walk

variable {s : Session} {walk : List RegisteredDevice} (h : Reachable s)
  (hwalk : walk.Perm s.registry.values)

include hwalk in
theorem eligibleAlong_perm : s.eligible.Perm (s.eligibleAlong walk) := (hwalk.filterMap _).symm

include h in
theorem nodup_eligible : (s.eligible.map (·.device.id)).Nodup := by
  have hids := h.listed.nodup_pool
  rwa [pool, List.map_map] at hids

include h hwalk

theorem rankDevicesAlong_eq : s.rankDevicesAlong walk = s.rankDevices := by
  rw [rankDevicesAlong, rankDevices,
    Score.rankAll_eq_of_perm _ (nodup_eligible h) (eligibleAlong_perm hwalk)]

theorem selectBestDeviceAlong_eq (minFree : Nat) :
    s.selectBestDeviceAlong walk minFree = s.selectBestDevice minFree := by
  rw [selectBestDeviceAlong, selectBestDevice,
    Score.selectBest_eq_of_perm _ (nodup_eligible h) (eligibleAlong_perm hwalk)]

theorem placeShardsAlong_eq (r : Request) : s.placeShardsAlong walk r = s.placeShards r := by
  have hpool := (eligibleAlong_perm hwalk).map (poolDevice s.config.scoring)
  have hsolve : solveInPlace s.config.placement r
      ((s.eligibleAlong walk).map (poolDevice s.config.scoring)) =
        Placement.solve s.config.placement r s.pool := by
    rw [Placement.solveInPlace_eq_solve]
    exact Placement.solve_eq_of_perm _ h.listed.nodup_pool hpool fun _ => Iff.rfl
  rw [placeShardsAlong, placeShards, Session.solve]
  cases r.candidates.find? (!s.isRegistered ·) with
  | some id => rfl
  | none =>
    dsimp only
    rw [hsolve]
    rfl

end Walk

/--
A request is solved alike on a pool and on every permutation of it, also when its candidates are listed
in another order or repeatedly, and whether the pool is left in place or put in order first: with the
same placements, or with the same report of its failure. Candidates with distinct ids are ranked and
selected alike in every order. So what a session answers about the eligible devices, and what it places
on them, is the same for every walk through its registry.
-/
theorem order_of_devices_is_immaterial :
    (∀ (policy : PlacementPolicy) (r : Request) (candidates : List DeviceId)
      (pool pool' : List PoolDevice), (pool.map (·.id)).Nodup → pool.Perm pool' →
      (∀ id, id ∈ candidates ↔ id ∈ r.candidates) →
      solveInPlace policy { r with candidates } pool' = solveInPlace policy r pool ∧
        Placement.solve policy { r with candidates } pool' = Placement.solve policy r pool ∧
        solveInPlace policy r pool = Placement.solve policy r pool) ∧
    (∀ (p : ScoringPolicy Float) (candidates candidates' : List (Candidate Float)),
      (candidates.map (·.device.id)).Nodup → candidates.Perm candidates' →
      Score.rankAll p candidates' = Score.rankAll p candidates ∧
        ∀ minFree, Score.selectBest p candidates' minFree = Score.selectBest p candidates minFree) ∧
    ∀ s, Reachable s → ∀ walk : List RegisteredDevice, walk.Perm s.registry.values →
      s.rankDevicesAlong walk = s.rankDevices ∧
        (∀ minFree, s.selectBestDeviceAlong walk minFree = s.selectBestDevice minFree) ∧
        ∀ r, s.placeShardsAlong walk r = s.placeShards r := by
  refine ⟨?_, ?_, ?_⟩
  · intro policy r candidates pool pool' hids hpool hcandidates
    have hsolve := Placement.solve_eq_of_perm policy hids hpool hcandidates
    refine ⟨?_, hsolve, Placement.solveInPlace_eq_solve policy r pool⟩
    rw [Placement.solveInPlace_eq_solve, Placement.solveInPlace_eq_solve, hsolve]
  · intro p candidates candidates' hids hperm
    refine ⟨(Score.rankAll_eq_of_perm p hids hperm).symm, fun minFree => ?_⟩
    exact (Score.selectBest_eq_of_perm p hids hperm minFree).symm
  · intro s h walk hwalk
    exact ⟨rankDevicesAlong_eq h hwalk, selectBestDeviceAlong_eq h hwalk, placeShardsAlong_eq h hwalk⟩

/-- A session with two devices that differ in their ids only, each of which has sent a sample. -/
def twins : Session :=
  let gpu (id : DeviceId) : Device := ⟨id, "A", .nvidia, "ada", 16, 4, [.fp32], .desktop, 900, none⟩
  let sample (id : DeviceId) : Sample Float := ⟨id, .epoch, 0, 16, 50, 200, 60, 1500⟩
  let registered := (((new {}).perform .start).1.perform (.registerDevice (gpu "a"))).1.perform
    (.registerDevice (gpu "b"))
  ((registered.1.perform (.record (sample "a"))).1.perform (.record (sample "b"))).1

/-- Devices with equal scores, listed either way. -/
theorem order_of_devices_is_immaterial_of_twins :
    let full (id : DeviceId) : PoolDevice := ⟨id, 8, 8, 0, [], none, .double 0⟩
    let candidate (id : DeviceId) : Candidate Float :=
      ⟨⟨id, "A", .nvidia, "ada", 16, 4, [.fp32], .desktop, 900, none⟩,
        ⟨id, .epoch, 0, 16, 50, 200, 60, 1500⟩, false⟩
    Placement.solve {} ⟨[5, 3], ["b", "a", "b"], none, none⟩ [full "b", full "a"] =
        Placement.solve {} ⟨[5, 3], ["a", "b"], none, none⟩ [full "a", full "b"] ∧
      Score.rankAll twins.config.scoring [candidate "b", candidate "a"] =
        Score.rankAll twins.config.scoring [candidate "a", candidate "b"] ∧
      twins.registry.size = 2 ∧
      ∀ r, twins.placeShardsAlong twins.registry.values.reverse r = twins.placeShards r := by
  intro full candidate
  obtain ⟨hsolve, hrank, hsession⟩ := order_of_devices_is_immaterial
  have hreachable : Reachable twins :=
    (((((Reachable.new {}).perform .start).perform (.registerDevice _)).perform
      (.registerDevice _)).perform (.record _)).perform (.record _)
  refine ⟨?_, ?_, by decide +kernel, ?_⟩
  · refine (hsolve {} ⟨[5, 3], ["a", "b"], none, none⟩ ["b", "a", "b"] _ _ ?_ (.swap ..) ?_).2.1
    · simp [full]
    · simp [or_comm]
  · refine (hrank _ _ _ ?_ (.swap ..)).1
    simp [candidate]
  · exact (hsession twins hreachable _ (List.reverse_perm _)).2.2

end GpuCluster.Session
