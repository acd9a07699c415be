import Mathlib
import GpuCluster.Proofs.Placement.Correctness
import GpuCluster.Proofs.Ranking

/-!
# What first fit chooses

A choice of devices is that of first fit when each shard has the first admitted device, by descending
score and then by id, that has enough memory left beside the shards before it, and no device when there
is none. For every request and pool there is exactly one such choice, and the positions that first fit
computes are those of its devices.
-/

namespace GpuCluster.Placement

variable {r : Request} {pool : List PoolDevice} {sizes free : List Nat}

/-! ## Positions -/

def Fate.position? : Fate → Option Nat
  | .placed position => some position
  | .refused _ => none

/-- Where first fit puts a shard. -/
def positionAt? (sizes free : List Nat) (k : Nat) : Option Nat :=
  ((firstFit sizes free)[k]?).bind Fate.position?

/-- Bytes that first fit has put on a position before a shard. -/
def usedBefore (sizes free : List Nat) (k position : Nat) : Nat :=
  ∑ j : Fin sizes.length,
    if j < k ∧ positionAt? sizes free j = some position then sizes.get j else 0

/-- Memory left after the first shard. -/
def afterFirst (n : Nat) (free : List Nat) : List Nat :=
  (free.findIdx? (n ≤ ·)).elim free fun position => takeFrom free position n

theorem positionAt?_cons_zero (n : Nat) (sizes free : List Nat) :
    positionAt? (n :: sizes) free 0 = free.findIdx? (n ≤ ·) := by
  rw [positionAt?, firstFit]
  cases free.findIdx? (n ≤ ·) <;> rfl

theorem positionAt?_cons_succ (n : Nat) (sizes free : List Nat) (k : Nat) :
    positionAt? (n :: sizes) free (k + 1) = positionAt? sizes (afterFirst n free) k := by
  rw [positionAt?, firstFit, afterFirst]
  cases free.findIdx? (n ≤ ·) <;> rfl

theorem usedBefore_zero (sizes free : List Nat) (position : Nat) :
    usedBefore sizes free 0 position = 0 := by
  simp [usedBefore]

theorem usedBefore_cons_succ (n : Nat) (sizes free : List Nat) (k position : Nat) :
    usedBefore (n :: sizes) free (k + 1) position =
      (if free.findIdx? (n ≤ ·) = some position then n else 0) +
        usedBefore sizes (afterFirst n free) k position := by
  rw [usedBefore, usedBefore]
  refine (Fin.sum_univ_succ _).trans ?_
  simp [positionAt?_cons_zero, positionAt?_cons_succ]

theorem length_afterFirst (n : Nat) (free : List Nat) : (afterFirst n free).length = free.length := by
  rw [afterFirst]
  cases free.findIdx? (n ≤ ·) with
  | none => rfl
  | some position => exact length_takeFrom ..

theorem getD_afterFirst (n : Nat) (free : List Nat) (position : Nat) :
    (if free.findIdx? (n ≤ ·) = some position then n else 0) + (afterFirst n free).getD position 0 =
      free.getD position 0 := by
  rw [afterFirst]
  cases hfound : free.findIdx? (n ≤ ·) with
  | none => simp
  | some first =>
    obtain ⟨-, hroom⟩ := room_of_findIdx? hfound
    rw [Option.elim_some, getD_takeFrom]
    by_cases heq : first = position
    · subst heq
      rw [if_pos rfl, if_pos rfl]
      omega
    · rw [if_neg heq, if_neg (by simpa using heq)]
      omega

theorem refusedShards_eq_nil_iff (sizes free : List Nat) (start : Nat) :
    refusedShards (firstFit sizes free) sizes start = [] ↔
      ∀ k < sizes.length, (positionAt? sizes free k).isSome := by
  induction sizes generalizing free start with
  | nil => simp [firstFit, refusedShards]
  | cons n sizes ih =>
    rw [List.length_cons, Nat.forall_lt_succ_left]
    simp only [positionAt?_cons_zero, positionAt?_cons_succ, firstFit, afterFirst]
    cases free.findIdx? (n ≤ ·) with
    | none => simp [refusedShards]
    | some position => simpa [refusedShards] using ih (takeFrom free position n) (start + 1)

theorem mem_placedShards {k position : Nat} (start : Nat)
    (h : positionAt? sizes free k = some position) :
    (start + k, position) ∈ placedShards (firstFit sizes free) start := by
  induction sizes generalizing free start k with
  | nil => simp [positionAt?, firstFit] at h
  | cons n sizes ih =>
    cases k with
    | zero =>
      rw [positionAt?_cons_zero] at h
      simp [firstFit, h, placedShards]
    | succ k =>
      rw [positionAt?_cons_succ] at h
      have hrest := ih (start + 1) h
      rw [Nat.add_right_comm, Nat.add_assoc] at hrest
      rw [firstFit]
      cases hfirst : free.findIdx? (n ≤ ·) with
      | none => simpa [placedShards, afterFirst, hfirst] using hrest
      | some first => simpa [placedShards, afterFirst, hfirst] using hrest

/-- Each shard goes to the first position with room in the memory that the shards before it left. -/
theorem exists_left (sizes free : List Nat) {k : Nat} (hk : k < sizes.length) :
    ∃ left : List Nat, left.length = free.length ∧
      (∀ position, usedBefore sizes free k position + left.getD position 0 = free.getD position 0) ∧
      positionAt? sizes free k = left.findIdx? (sizes.get ⟨k, hk⟩ ≤ ·) := by
  -- What the first shard has taken from a position is counted beside what the later ones take.
  induction sizes generalizing free k with
  | nil => cases hk
  | cons n sizes ih =>
    cases k with
    | zero =>
      refine ⟨free, rfl, fun position => ?_, positionAt?_cons_zero n sizes free⟩
      rw [usedBefore_zero, Nat.zero_add]
    | succ k =>
      obtain ⟨left, hlength, hleft, hposition⟩ := ih (afterFirst n free) (Nat.lt_of_succ_lt_succ hk)
      refine ⟨left, hlength.trans (length_afterFirst n free), fun position => ?_, ?_⟩
      · rw [usedBefore_cons_succ, Nat.add_assoc, hleft, getD_afterFirst]
      · rw [positionAt?_cons_succ, hposition]
        rfl

theorem lt_of_positionAt? {k position : Nat} (hk : k < sizes.length)
    (h : positionAt? sizes free k = some position) : position < free.length := by
  obtain ⟨left, hlength, -, hposition⟩ := exists_left sizes free hk
  rw [← hlength]
  exact (room_of_findIdx? (hposition.symm.trans h)).1

/-! ## Choices -/

/-- A choice of a device for every shard, or of none. -/
abbrev Choice (r : Request) := Fin r.sizes.length → Option DeviceId

/-- Bytes that a choice has put on a device before a shard. -/
def Choice.loadBefore (choice : Choice r) (i : Fin r.sizes.length) (id : DeviceId) : Nat :=
  ∑ j, if j < i ∧ choice j = some id then r.sizes.get j else 0

/-- A device has enough memory left for a shard. -/
def Choice.HasRoom (choice : Choice r) (i : Fin r.sizes.length) (d : PoolDevice) : Prop :=
  choice.loadBefore i d.id + r.sizes.get i ≤ d.free

/-- The first admitted device with room. -/
structure IsFirst (r : Request) (pool : List PoolDevice) (room : PoolDevice → Prop) (d : PoolDevice) :
    Prop where
  mem : d ∈ pool
  admits : r.Admits d
  hasRoom : room d
  least : ∀ e ∈ pool, r.Admits e → room e → precedes d e = true

/-- Every shard has the first admitted device with enough memory left, if there is one. -/
def Choice.FirstFits (choice : Choice r) (pool : List PoolDevice) : Prop :=
  ∀ i id, choice i = some id ↔ ∃ d, IsFirst r pool (choice.HasRoom i) d ∧ d.id = id

/-- A choice is determined when every item follows from what the items before it have taken. -/
theorem eq_of_follows_taken {κ : Type} [DecidableEq κ] {n : Nat} {size : Fin n → Nat}
    (follows : Fin n → (κ → Nat) → κ → Prop) {choice choice' : Fin n → Option κ}
    (h : ∀ i k, choice i = some k ↔
      follows i (fun k => ∑ j, if j < i ∧ choice j = some k then size j else 0) k)
    (h' : ∀ i k, choice' i = some k ↔
      follows i (fun k => ∑ j, if j < i ∧ choice' j = some k then size j else 0) k) :
    choice = choice' := by
  -- By induction on the items, what is taken before each is the same for both choices.
  have key : ∀ m, ∀ i : Fin n, i.val = m → choice i = choice' i := by
    intro m
    induction m using Nat.strongRecOn with
    | ind m ih =>
      rintro i rfl
      have htaken : (fun k => ∑ j, if j < i ∧ choice j = some k then size j else 0) =
          fun k => ∑ j, if j < i ∧ choice' j = some k then size j else 0 := by
        funext k
        refine Finset.sum_congr rfl fun j _ => ?_
        by_cases hj : j < i
        · rw [ih j hj j rfl]
        · simp [hj]
      refine Option.ext fun k => ?_
      rw [h i k, h' i k, htaken]
  exact funext fun i => key i i rfl

theorem Choice.FirstFits.unique {choice choice' : Choice r} (h : choice.FirstFits pool)
    (h' : choice'.FirstFits pool) : choice = choice' :=
  eq_of_follows_taken (fun i taken id =>
    ∃ d, IsFirst r pool (fun d => taken d.id + r.sizes.get i ≤ d.free) d ∧ d.id = id) h h'

/-- The devices at the positions that first fit computes. -/
def firstChoice (r : Request) (pool : List PoolDevice) : Choice r := fun i =>
  (positionAt? r.sizes (contendingFree r pool) i).bind fun position =>
    ((contenders r pool)[position]?).map (·.id)

theorem length_contendingFree : (contendingFree r pool).length = (contenders r pool).length :=
  List.length_map _

theorem getElem?_of_positionAt? {i : Fin r.sizes.length} {position : Nat}
    (h : positionAt? r.sizes (contendingFree r pool) i = some position) :
    ∃ d, (contenders r pool)[position]? = some d ∧ firstChoice r pool i = some d.id := by
  have hlt : position < (contenders r pool).length :=
    lt_of_lt_of_eq (lt_of_positionAt? i.isLt h) length_contendingFree
  refine ⟨_, List.getElem?_eq_getElem hlt, ?_⟩
  rw [firstChoice, h, Option.bind_some, List.getElem?_eq_getElem hlt, Option.map_some]

theorem firstChoice_eq_some_iff (hids : (pool.map (·.id)).Nodup) {i : Fin r.sizes.length}
    {position : Nat} (hposition : position < (contenders r pool).length) :
    firstChoice r pool i = some ((contenders r pool).get ⟨position, hposition⟩).id ↔
      positionAt? r.sizes (contendingFree r pool) i = some position := by
  cases hat : positionAt? r.sizes (contendingFree r pool) i with
  | none => simp [firstChoice, hat]
  | some q =>
    obtain ⟨d, hd, hchoice⟩ := getElem?_of_positionAt? hat
    obtain ⟨hq, rfl⟩ := List.getElem?_eq_some_iff.mp hd
    rw [hchoice, Option.some_inj, Option.some_inj]
    exact position_eq_iff hids hq hposition

theorem loadBefore_firstChoice (hids : (pool.map (·.id)).Nodup) (i : Fin r.sizes.length)
    {position : Nat} (hposition : position < (contenders r pool).length) :
    (firstChoice r pool).loadBefore i ((contenders r pool).get ⟨position, hposition⟩).id =
      usedBefore r.sizes (contendingFree r pool) i position := by
  refine Finset.sum_congr rfl fun j _ => ?_
  simp only [firstChoice_eq_some_iff hids hposition, Fin.lt_def]

theorem pairwise_contenders (r : Request) (pool : List PoolDevice) :
    (contenders r pool).Pairwise (precedes · · = true) :=
  pairwise_ranking _

theorem precedes_refl (d : PoolDevice) : precedes d d = true := by
  rw [precedes_eq_ranksBefore, ← Bool.or_self (ranksBefore ..)]
  exact ranksBefore_total d d

theorem id_eq_of_precedes {d e : PoolDevice} (hde : precedes d e = true) (hed : precedes e d = true) :
    d.id = e.id := by
  rw [precedes_eq_ranksBefore] at hde hed
  exact name_eq_of_ranksBefore hde hed

theorem precedes_of_le {p q : Nat} (hp : p < (contenders r pool).length)
    (hq : q < (contenders r pool).length) (h : p ≤ q) :
    precedes ((contenders r pool).get ⟨p, hp⟩) ((contenders r pool).get ⟨q, hq⟩) = true := by
  rcases h.eq_or_lt with rfl | hlt
  · exact precedes_refl _
  · exact List.pairwise_iff_get.mp (pairwise_contenders r pool) ⟨p, hp⟩ ⟨q, hq⟩ hlt

/-- Of the contenders with room, the first is the one at the first position with room. -/
theorem isFirst_get_iff (hids : (pool.map (·.id)).Nodup) {room : PoolDevice → Prop} {p : Nat}
    (hp : p < (contenders r pool).length) :
    IsFirst r pool room ((contenders r pool).get ⟨p, hp⟩) ↔
      room ((contenders r pool).get ⟨p, hp⟩) ∧
        ∀ q (hq : q < p), ¬room ((contenders r pool).get ⟨q, hq.trans hp⟩) := by
  have hmem : ∀ q (hq : q < (contenders r pool).length),
      (contenders r pool).get ⟨q, hq⟩ ∈ pool ∧ r.Admits ((contenders r pool).get ⟨q, hq⟩) :=
    fun q hq => mem_contenders.mp (List.getElem_mem hq)
  constructor
  · intro h
    refine ⟨h.hasRoom, fun q hq hroom => ?_⟩
    -- Of two contenders that precede each other there is only one.
    have hid := id_eq_of_precedes (h.least _ (hmem q _).1 (hmem q _).2 hroom)
      (precedes_of_le (hq.trans hp) hp hq.le)
    exact hq.ne ((position_eq_iff hids hp (hq.trans hp)).mp hid).symm
  · rintro ⟨hroom, hleast⟩
    refine ⟨(hmem p hp).1, (hmem p hp).2, hroom, fun e he hadmits hroome => ?_⟩
    obtain ⟨q, hq, rfl⟩ := List.getElem_of_mem (mem_contenders.mpr ⟨he, hadmits⟩)
    exact precedes_of_le hp hq (not_lt.mp fun hlt => hleast q hlt hroome)

/-- First fit makes the choice of first fit. -/
theorem firstFits_firstChoice (hids : (pool.map (·.id)).Nodup) :
    (firstChoice r pool).FirstFits pool := by
  intro i id
  obtain ⟨left, hlength, hleft, hat⟩ := exists_left r.sizes (contendingFree r pool) i.isLt
  rw [length_contendingFree] at hlength
  have hroom : ∀ q (hq : q < (contenders r pool).length),
      (firstChoice r pool).HasRoom i ((contenders r pool).get ⟨q, hq⟩) ↔
        r.sizes.get i ≤ left.get ⟨q, hlength ▸ hq⟩ := by
    intro q hq
    have hfree : usedBefore r.sizes (contendingFree r pool) i q + left.get ⟨q, hlength ▸ hq⟩ =
        ((contenders r pool).get ⟨q, hq⟩).free := by
      rw [List.get_eq_getElem, ← List.getD_eq_getElem left 0, hleft, getD_contendingFree hq]
      rfl
    rw [Choice.HasRoom, loadBefore_firstChoice hids i hq, ← hfree, Nat.add_le_add_iff_left]
  have hfirst : ∀ q (hq : q < (contenders r pool).length),
      positionAt? r.sizes (contendingFree r pool) i = some q ↔
        IsFirst r pool ((firstChoice r pool).HasRoom i) ((contenders r pool).get ⟨q, hq⟩) := by
    intro q hq
    rw [isFirst_get_iff hids, hroom q hq, hat, List.findIdx?_eq_some_iff_getElem]
    constructor
    · rintro ⟨hq', hfits, hnot⟩
      exact ⟨of_decide_eq_true hfits, fun p hp h =>
        hnot p hp (decide_eq_true ((hroom p (hp.trans hq)).mp h))⟩
    · rintro ⟨hfits, hnot⟩
      exact ⟨hlength ▸ hq, decide_eq_true hfits, fun p hp h =>
        hnot p hp ((hroom p (hp.trans hq)).mpr (of_decide_eq_true h))⟩
  constructor
  · intro h
    obtain ⟨q, hq, -⟩ := Option.bind_eq_some_iff.mp h
    obtain ⟨d, hd, hchoice⟩ := getElem?_of_positionAt? hq
    obtain ⟨hlt, rfl⟩ := List.getElem?_eq_some_iff.mp hd
    exact ⟨_, (hfirst q hlt).mp hq, Option.some.inj (hchoice.symm.trans h)⟩
  · rintro ⟨d, hd, rfl⟩
    obtain ⟨q, hq, rfl⟩ := List.getElem_of_mem (mem_contenders.mpr ⟨hd.mem, hd.admits⟩)
    exact (firstChoice_eq_some_iff hids hq).mpr ((hfirst q hq).mpr hd)

/-! ## First fit of all shards -/

theorem isSome_firstChoice_iff {i : Fin r.sizes.length} :
    (firstChoice r pool i).isSome ↔ (positionAt? r.sizes (contendingFree r pool) i).isSome := by
  cases h : positionAt? r.sizes (contendingFree r pool) i with
  | none => simp [firstChoice, h]
  | some position =>
    obtain ⟨d, -, hd⟩ := getElem?_of_positionAt? h
    simp [hd]

theorem exists_firstFitAll?_iff :
    (∃ placed, firstFitAll? r.sizes (contendingFree r pool) = some placed) ↔
      ∀ i, (firstChoice r pool i).isSome := by
  have hall : refusedShards (firstFit r.sizes (contendingFree r pool)) r.sizes 0 = [] ↔
      ∀ i, (firstChoice r pool i).isSome := by
    rw [refusedShards_eq_nil_iff, Fin.forall_iff]
    exact forall₂_congr fun k hk => (isSome_firstChoice_iff (i := ⟨k, hk⟩)).symm
  rw [← hall, ← List.isEmpty_iff, firstFitAll?]
  by_cases h : (refusedShards (firstFit r.sizes (contendingFree r pool)) r.sizes 0).isEmpty = true <;>
    simp [h]

theorem get?_named_of_firstFitAll? {placed : List (Nat × Nat)}
    (h : firstFitAll? r.sizes (contendingFree r pool) = some placed) (i : Fin r.sizes.length) :
    (named (contenders r pool) placed).get? i = firstChoice r pool i := by
  have hkeys := (isPacking_of_firstFitAll? h).perm
  obtain ⟨position, hposition⟩ := Option.isSome_iff_exists.mp
    (isSome_firstChoice_iff.mp (exists_firstFitAll?_iff.mp ⟨placed, h⟩ i))
  obtain ⟨d, hd, hchoice⟩ := getElem?_of_positionAt? hposition
  have hmem : (i.val, position) ∈ placed := by
    rw [firstFitAll?] at h
    split at h
    · rw [← Option.some.inj h, ← Nat.zero_add i.val]
      exact mem_placedShards 0 hposition
    · cases h
  rw [hchoice, named]
  apply Table.get?_ofList_of_mem
  · rw [List.map_map]
    exact hkeys.nodup_iff.mpr List.nodup_range
  · exact List.mem_map.mpr ⟨_, hmem, by simp [hd]⟩

end GpuCluster.Placement
