import Mathlib
import GpuCluster.Proofs.Placement.Correctness

/-!
# One shard

First fit and the search agree about a single shard: it goes to the first device, in the order in which
they are tried, that has room for it. So does every arrangement, whatever it thinks of the pool and
however much time it has.
-/

namespace GpuCluster.Placement

variable {policy : PlacementPolicy} {pool : List PoolDevice} {size : Nat} {free : List Nat}

theorem firstFitAll?_singleton (size : Nat) (free : List Nat) :
    firstFitAll? [size] free = (free.findIdx? (size ≤ ·)).map fun position => [(0, position)] := by
  rw [firstFitAll?, firstFit]
  cases free.findIdx? (size ≤ ·) <;> rfl

theorem find?_range_room (size : Nat) (free : List Nat) :
    (List.range free.length).find? (size ≤ free.getD · 0) = free.findIdx? (size ≤ ·) := by
  ext position
  rw [List.find?_range_eq_some, List.findIdx?_eq_some_iff_getElem]
  constructor
  · rintro ⟨hroom, hlt, hfirst⟩
    rw [List.mem_range] at hlt
    refine ⟨hlt, ?_, fun j hj => ?_⟩
    · rwa [List.getD_eq_getElem _ _ hlt] at hroom
    · have hnot := hfirst j hj
      rw [List.getD_eq_getElem _ _ (hj.trans hlt)] at hnot
      simpa using hnot
  · rintro ⟨hlt, hroom, hfirst⟩
    refine ⟨?_, List.mem_range.mpr hlt, fun j hj => ?_⟩
    · rwa [List.getD_eq_getElem _ _ hlt]
    · rw [List.getD_eq_getElem _ _ (hj.trans hlt)]
      simpa using hfirst j hj

theorem search?_singleton (size : Nat) (free : List Nat) :
    search? [size] free = (free.findIdx? (size ≤ ·)).map fun position => [(0, position)] := by
  rw [← find?_range_room, ← List.head?_filter]
  change (positionsWithRoom free size).findSome? _ = (positionsWithRoom free size).head?.map _
  cases positionsWithRoom free size <;> rfl

/-- A request for one shard that may go anywhere. -/
def Request.single (size : Nat) : Request := ⟨[size], [], none, none⟩

theorem arrange_single (timeoutMs : Nat) (heterogeneous : Bool) (size : Nat) (free : List Nat) :
    (arrange timeoutMs heterogeneous (Request.single size).sizes free).1 =
      (free.findIdx? (size ≤ ·)).map fun position => [(0, position)] := by
  have hsearch : (searchOrFirstFit timeoutMs [size] free).1 =
      (free.findIdx? (size ≤ ·)).map fun position => [(0, position)] := by
    rw [searchOrFirstFit]
    split
    · exact firstFitAll?_singleton size free
    · exact search?_singleton size free
  rw [Request.single, arrange]
  split
  · exact hsearch
  · split
    · rename_i hfit
      rw [← firstFitAll?_singleton, hfit]
    · exact hsearch

theorem isPacking_single {position : Nat} (h : free.findIdx? (size ≤ ·) = some position) :
    IsPacking ((Request.single size).sizes.getD · 0) free (List.range (Request.single size).sizes.length)
      [(0, position)] := by
  apply isPacking_of_firstFitAll?
  rw [Request.single, firstFitAll?_singleton, h]
  rfl

theorem contenders_single (size : Nat) (pool : List PoolDevice) :
    contenders (.single size) pool = tryOrder pool :=
  congrArg tryOrder (List.filter_eq_self.mpr fun _ _ => rfl)

theorem findIdx?_contendingFree_single (size : Nat) (pool : List PoolDevice) :
    (contendingFree (.single size) pool).findIdx? (size ≤ ·) =
      (tryOrder pool).findIdx? (size ≤ ·.free) := by
  rw [contendingFree, contenders_single, List.findIdx?_map]
  rfl

theorem exists_position_of_find? {α : Type} {l : List α} {p : α → Bool} {a : α}
    (h : l.find? p = some a) : ∃ i, l.findIdx? p = some i ∧ l[i]? = some a := by
  obtain ⟨ha, i, hi, rfl, hfirst⟩ := List.find?_eq_some_iff_getElem.mp h
  refine ⟨i, List.findIdx?_eq_some_iff_getElem.mpr ⟨hi, ha, fun j hj => ?_⟩, List.getElem?_eq_getElem hi⟩
  simpa using hfirst j hj

theorem deviceFor?_named_singleton {devices : List PoolDevice} {position : Nat} {d : PoolDevice}
    (h : devices[position]? = some d) (method : Method) (heterogeneous : Bool) :
    (Assignment.of (named devices [(0, position)]) [size] method heterogeneous).deviceFor? 0 =
      some d.id := by
  simp only [Assignment.deviceFor?, Assignment.of, named, List.map_singleton, h]
  rfl

theorem solve_single_of_find?_eq_some {d : PoolDevice}
    (h : (tryOrder pool).find? (size ≤ ·.free) = some d) :
    ∃ a, solve policy (.single size) pool = .ok a ∧ a.deviceFor? 0 = some d.id := by
  obtain ⟨position, hfound, hd⟩ := exists_position_of_find? h
  rw [← findIdx?_contendingFree_single] at hfound
  have harrange : (arrange policy.timeoutMs (isHeterogeneous (contenders (.single size) pool)
      policy.memoryTolerance policy.utilizationTolerance) (Request.single size).sizes
      (contendingFree (.single size) pool)).1 = some [(0, position)] := by
    rw [arrange_single, hfound]
    rfl
  have hn : (Request.single size).sizes ≠ [] := List.cons_ne_nil size []
  have hsolve := solve_of_arrange hn (isPacking_single hfound) (Prod.ext harrange rfl)
  refine ⟨_, hsolve, deviceFor?_named_singleton ?_ _ _⟩
  rwa [contenders_single]

theorem solve_single_of_find?_eq_none (h : (tryOrder pool).find? (size ≤ ·.free) = none) :
    ∃ failure, solve policy (.single size) pool = .error (.infeasible failure) := by
  have hn : (Request.single size).sizes ≠ [] := List.cons_ne_nil size []
  rcases solve_cases policy pool hn with herror | ⟨placed, method, heterogeneous, harrange, -⟩
  · exact herror
  · -- An arrangement would have found a device with room.
    have hnone : (tryOrder pool).findIdx? (size ≤ ·.free) = none := by
      rw [List.findIdx?_eq_none_iff]
      simpa using h
    have hplaced := congrArg Prod.fst harrange
    rw [arrange_single, findIdx?_contendingFree_single, hnone] at hplaced
    cases hplaced

end GpuCluster.Placement
