import Mathlib
import GpuCluster.Proofs.Placement.Seating
import GpuCluster.Proofs.Placement.Words

/-!
# Backtracking

The search keeps one board and counts the shards that it has placed. It takes the tightest shard, puts it
on one device after the other, goes on from there, and takes the shard back when that leads nowhere. On
every board whose memory agrees with its shards a step comes to an end: it completes the board, or it
leaves the board as it was because nothing completes it. A shard is never taken from less memory than it
has bytes, and never given back to more than its device had.
-/

namespace GpuCluster.Placement

variable {sizes : List Nat}

/-! ## Boards as seatings -/

/-- The shard with a number. -/
def shardAt (sizes : List Nat) (i : Fin sizes.length) : Shard := ⟨i, sizes.get i⟩

theorem exists_eq_shardAt {s : Shard} (h : s ∈ shardsOf sizes) : ∃ i, s = shardAt sizes i := by
  obtain ⟨i, hi, rfl⟩ := List.mem_mapIdx.mp h
  exact ⟨⟨i, hi⟩, rfl⟩

theorem shardAt_mem_shardsOf (i : Fin sizes.length) : shardAt sizes i ∈ shardsOf sizes :=
  List.mem_mapIdx.mpr ⟨i, i.isLt, rfl⟩

namespace Seating

variable {seat seat' : Seating sizes} {i : Fin sizes.length}

/-- `seat'` has every shard where `seat` has it. -/
def Keeps (seat seat' : Seating sizes) : Prop :=
  ∀ i position, seat i = some position → seat' i = some position

theorem Keeps.taken_le (h : seat.Keeps seat') (position : Nat) :
    seat.taken position ≤ seat'.taken position := by
  refine Finset.sum_le_sum fun i _ => ?_
  split
  · rename_i hseat
    rw [if_pos (h i position hseat)]
  · exact Nat.zero_le _

/-- The seating with one more shard. -/
def put (seat : Seating sizes) (i : Fin sizes.length) (position : Nat) : Seating sizes :=
  Function.update seat i (some position)

theorem put_eq_some_iff {position other : Nat} {j : Fin sizes.length} :
    seat.put i position j = some other ↔
      (j = i ∧ position = other) ∨ (j ≠ i ∧ seat j = some other) := by
  rw [put, Function.update_apply]
  split <;> simp [*]

theorem keeps_put (hnone : seat i = none) (position : Nat) : seat.Keeps (seat.put i position) := by
  intro j other hj
  refine put_eq_some_iff.mpr (Or.inr ⟨?_, hj⟩)
  rintro rfl
  rw [hnone] at hj
  cases hj

theorem Keeps.put (h : seat.Keeps seat') {position : Nat} (hi : seat' i = some position) :
    (seat.put i position).Keeps seat' := by
  intro j other hj
  obtain ⟨rfl, rfl⟩ | ⟨-, hj⟩ := put_eq_some_iff.mp hj
  · exact hi
  · exact h j other hj

theorem taken_put (hnone : seat i = none) (position other : Nat) :
    (seat.put i position).taken other =
      seat.taken other + if position = other then sizes.get i else 0 := by
  have hone := Finset.sum_ite_eq' Finset.univ i fun j => if position = other then sizes.get j else 0
  rw [if_pos (Finset.mem_univ i)] at hone
  rw [taken, taken, ← hone, ← Finset.sum_add_distrib]
  refine Finset.sum_congr rfl fun j _ => ?_
  by_cases hj : j = i
  · subst hj
    simp [put, hnone]
  · simp [put, hj]

end Seating

/-! ## The search -/

namespace Problem

/-- A step of the search, in which no device may come to have more memory than it had available. -/
def step? (p : Problem) : (depth placed : Nat) → Board → Option (Bool × Board) :=
  p.stepWithin? (p.available.getD · 0)

/-- A step comes to an end with a result: it has that at every depth that allows one step for each shard
that is left. -/
def Ends (p : Problem) (placed : Nat) (b : Board) (result : Bool × Board) : Prop :=
  ∀ depth, p.sizes.length ≤ placed + depth → p.step? depth placed b = some result

end Problem

/-! ## Boards in balance -/

section Balance

variable {p : Problem} {b : Board} {i : Fin p.sizes.length} {position : Nat}

def Board.seating (sizes : List Nat) (b : Board) : Seating sizes := fun i => b.assigned.getD i none

/-- What is left on each device and the shards that it holds are together what was available. -/
structure Board.Balances (p : Problem) (b : Board) : Prop where
  length_left : b.left.length = p.available.length
  length_assigned : b.assigned.length = p.sizes.length
  inRange : ∀ i position, b.seating p.sizes i = some position → position < p.available.length
  balance : ∀ position, b.left.getD position 0 + (b.seating p.sizes).taken position =
    p.available.getD position 0

/-- A device for every shard that keeps the shards of a board in their places and puts no more on a
device than it has available. -/
structure Completes (p : Problem) (b : Board) (seat : Seating p.sizes) : Prop where
  full : ∀ i, ∃ position < p.available.length, seat i = some position
  keeps : (b.seating p.sizes).Keeps seat
  fits : ∀ position, seat.taken position ≤ p.available.getD position 0

namespace Board

theorem shardAt_mem_pending_iff {i : Fin sizes.length} :
    shardAt sizes i ∈ b.pending sizes ↔ b.seating sizes i = none :=
  mem_pending.trans (and_iff_right (shardAt_mem_shardsOf i))

theorem seating_eq_get (h : b.assigned.length = sizes.length) (i : Fin sizes.length) :
    b.seating sizes i = b.assigned.get (i.cast h.symm) :=
  List.getD_eq_getElem _ _ (i.cast h.symm).isLt

theorem seating_place (h : b.assigned.length = sizes.length) (i : Fin sizes.length) (position : Nat) :
    (b.place (shardAt sizes i) position).seating sizes =
      (b.seating sizes).put i position := by
  funext j
  rw [seating, place, List.getD_eq_getElem?_getD, List.getElem?_set, Seating.put]
  by_cases heq : i = j
  · subst heq
    simp [shardAt, h]
  · have hne : (shardAt sizes i).index ≠ j := fun hval => heq (Fin.ext hval)
    rw [if_neg hne, Function.update_of_ne (Ne.symm heq), seating, List.getD_eq_getElem?_getD]

theorem countP_place (h : b.assigned.length = p.sizes.length) (hnone : b.seating p.sizes i = none)
    (position : Nat) :
    (b.place (shardAt p.sizes i) position).assigned.countP (·.isSome) =
      b.assigned.countP (·.isSome) + 1 := by
  simp only [seating_eq_get h, List.get_eq_getElem, Fin.val_cast] at hnone
  rw [Board.place, shardAt, List.countP_set (i.isLt.trans_eq h.symm)]
  simp [hnone]

namespace Balances

theorem place (h : b.Balances p) (hnone : b.seating p.sizes i = none)
    (hposition : position < p.available.length) (hroom : p.sizes.get i ≤ b.left.getD position 0) :
    (b.place (shardAt p.sizes i) position).Balances p := by
  have hseating := seating_place h.length_assigned i position
  refine ⟨?_, ?_, ?_, ?_⟩
  · exact (length_takeFrom ..).trans h.length_left
  · exact List.length_set.trans h.length_assigned
  · intro j other hj
    rw [hseating] at hj
    obtain ⟨-, rfl⟩ | ⟨-, hj⟩ := Seating.put_eq_some_iff.mp hj
    · exact hposition
    · exact h.inRange j other hj
  · intro other
    have hbalance := h.balance other
    rw [hseating, Seating.taken_put hnone, Board.place, getD_takeFrom, shardAt]
    by_cases heq : position = other
    · subst heq
      simp only [if_true]
      omega
    · simp only [if_neg heq]
      omega

/-- No device has more memory left than it had available. -/
theorem isFor (h : b.Balances p) : b.IsFor p.sizes (p.available.getD · 0) where
  length_assigned := h.length_assigned
  left_le position := h.balance position ▸ Nat.le_add_right _ _

theorem completes_self (h : b.Balances p) (hfull : ∀ i, b.seating p.sizes i ≠ none) :
    Completes p b (b.seating p.sizes) where
  full i := by
    obtain ⟨position, hi⟩ := Option.ne_none_iff_exists'.mp (hfull i)
    exact ⟨position, h.inRange i position hi, hi⟩
  keeps _ _ hi := hi
  fits position := h.balance position ▸ Nat.le_add_left _ _

/-- In a completion a shard has room where it is. -/
theorem room (h : b.Balances p) (hnone : b.seating p.sizes i = none) {seat : Seating p.sizes}
    (hseat : Completes p b seat) (hi : seat i = some position) :
    p.sizes.get i ≤ b.left.getD position 0 := by
  have hle := ((hseat.keeps.put hi).taken_le position).trans (hseat.fits position)
  rw [Seating.taken_put hnone, if_pos rfl, ← h.balance position] at hle
  omega

end Balances

end Board

namespace Completes

variable {seat : Seating p.sizes}

theorem place (h : Completes p b seat) (hlength : b.assigned.length = p.sizes.length)
    (hi : seat i = some position) : Completes p (b.place (shardAt p.sizes i) position) seat where
  full := h.full
  keeps := Board.seating_place hlength i position ▸ h.keeps.put hi
  fits := h.fits

theorem of_place (h : Completes p (b.place (shardAt p.sizes i) position) seat)
    (hlength : b.assigned.length = p.sizes.length) (hnone : b.seating p.sizes i = none) :
    Completes p b seat where
  full := h.full
  keeps j other hj := by
    have hkeeps := h.keeps
    rw [Board.seating_place hlength] at hkeeps
    exact hkeeps j other (Seating.keeps_put hnone position j other hj)
  fits := h.fits

end Completes

end Balance

/-! ## Steps -/

namespace Problem

section Steps

variable {p : Problem} {next : Board → Option (Bool × Board)} {b : Board} {i : Fin p.sizes.length}
  {placed count : Nat}

/-- The search has completed a board, or it has left the board as it was, and no seating of some kind
completes that. -/
def Settles (p : Problem) (b : Board) (kind : Seating p.sizes → Prop)
    (result : Option (Bool × Board)) : Prop :=
  (∃ b', result = some (true, b') ∧ b'.Balances p ∧ Completes p b (b'.seating p.sizes)) ∨
    (result = some (false, b) ∧ ∀ seat, Completes p b seat → ¬kind seat)

/-- The devices are tried one after the other, each on the board as it was. -/
theorem settles_tryEach? (h : b.Balances p) (hnone : b.seating p.sizes i = none)
    (hnext : ∀ position < p.available.length, p.sizes.get i ≤ b.left.getD position 0 →
      p.Settles (b.place (shardAt p.sizes i) position) (fun _ => True)
        (next (b.place (shardAt p.sizes i) position)))
    {positions : List Nat} (hpositions : ∀ position ∈ positions, position < p.available.length) :
    p.Settles b (fun seat => ∃ position ∈ positions, seat i = some position)
      (tryEach? (p.available.getD · 0) next (shardAt p.sizes i) positions b) := by
  have hpending := Board.shardAt_mem_pending_iff.mpr hnone
  induction positions with
  | nil =>
    refine Or.inr ⟨by rw [tryEach?], fun seat _ hmem => ?_⟩
    obtain ⟨position, hmem, -⟩ := hmem
    cases hmem
  | cons position rest ih =>
    obtain ⟨hposition, hrest⟩ := List.forall_mem_cons.mp hpositions
    have hlt : position < b.left.length := hposition.trans_eq h.length_left.symm
    -- A device on which no completion has the shard may be left out.
    have hskip (hseat : ∀ seat, Completes p b seat → seat i ≠ some position) :
        p.Settles b (fun seat => ∃ other ∈ position :: rest, seat i = some other)
          (tryEach? (p.available.getD · 0) next (shardAt p.sizes i) rest b) := by
      refine (ih hrest).imp_right fun hleft => ⟨hleft.1, fun seat hcompletes hmem => ?_⟩
      obtain ⟨other, hother, hi⟩ := hmem
      rcases List.mem_cons.mp hother with rfl | hother
      · exact hseat seat hcompletes hi
      · exact hleft.2 seat hcompletes ⟨other, hother, hi⟩
    by_cases hroom : p.sizes.get i ≤ b.left.getD position 0
    · rcases hnext position hposition hroom with ⟨b', hstep, hbalances, hcompletes⟩ | ⟨hstep, hnot⟩
      · refine Or.inl ⟨b', tryEach?_cons_of_done hlt hroom hstep, hbalances, ?_⟩
        exact hcompletes.of_place h.length_assigned hnone
      · rw [tryEach?_cons_of_not_done (s := shardAt p.sizes i) hlt hroom h.isFor hpending hstep]
        refine hskip fun seat hcompletes hi => ?_
        exact hnot seat (hcompletes.place h.length_assigned hi) trivial
    · rw [tryEach?_cons_of_no_room (Nat.lt_of_not_le hroom)]
      exact hskip fun seat hcompletes hi => hroom (h.room hnone hcompletes hi)

/-- A board on which no shard is pending is complete. -/
theorem settles_of_full (h : b.Balances p) (hfull : ∀ i, b.seating p.sizes i ≠ none) :
    p.Settles b (fun _ => True) (some (true, b)) :=
  Or.inl ⟨b, rfl, h, h.completes_self hfull⟩

theorem settles_step? (h : b.Balances p)
    (hplaced : b.assigned.countP (·.isSome) = placed) (hcount : placed + count = p.sizes.length) :
    p.Settles b (fun _ => True) (p.step? count placed b) := by
  -- Every step leaves one shard less to be placed.
  induction count generalizing placed b with
  | zero =>
    rw [step?, stepWithin?, if_pos (by simpa using hcount)]
    refine settles_of_full h fun i hnone => ?_
    have hall : b.assigned.countP (·.isSome) = b.assigned.length := by
      rw [hplaced, h.length_assigned, ← hcount, Nat.add_zero]
    rw [Board.seating_eq_get h.length_assigned] at hnone
    have hsome := List.countP_eq_length.mp hall none (hnone ▸ List.get_mem _ _)
    cases hsome
  | succ count ih =>
    rw [step?, stepWithin?, if_neg (by omega)]
    cases hchosen : tightest? b.left (b.pending p.sizes) with
    | none =>
      refine settles_of_full h fun i hnone => ?_
      have hpending := Board.shardAt_mem_pending_iff.mpr hnone
      rw [tightest?_eq_none hchosen] at hpending
      cases hpending
    | some s =>
      have hpending := mem_of_tightest? hchosen
      obtain ⟨i, rfl⟩ := exists_eq_shardAt (Board.mem_pending.mp hpending).1
      have hnone := Board.shardAt_mem_pending_iff.mp hpending
      dsimp only
      split
      · rename_i hzero
        refine Or.inr ⟨rfl, fun seat hcompletes _ => ?_⟩
        obtain ⟨position, hposition, hi⟩ := hcompletes.full i
        have hmem : position ∈ positionsWithRoom b.left (shardAt p.sizes i).size :=
          mem_positionsWithRoom.mpr
            ⟨hposition.trans_eq h.length_left.symm, h.room hnone hcompletes hi⟩
        rw [positionsWithRoom_of_fitCount_eq_zero hzero] at hmem
        cases hmem
      · have hmem : ∀ position, position ∈ p.order ↔ position < p.available.length := fun _ =>
          p.order_perm.mem_iff.trans List.mem_range
        have htry := settles_tryEach? h hnone (fun position hposition hroom =>
          ih (h.place hnone hposition hroom) ((Board.countP_place h.length_assigned hnone _).trans
            (congrArg (· + 1) hplaced)) (by omega)) fun position => (hmem position).mp
        refine htry.imp_right fun hleft => ⟨hleft.1, fun seat hcompletes _ => ?_⟩
        obtain ⟨position, hposition, hi⟩ := hcompletes.full i
        exact hleft.2 seat hcompletes ⟨position, (hmem position).mpr hposition, hi⟩

theorem balances_start (p : Problem) : (Board.start p.sizes p.available).Balances p where
  length_left := rfl
  length_assigned := List.length_replicate
  inRange i position hi := by simp [Board.seating, Board.start] at hi
  balance position := by simp [Board.seating, Board.start, Seating.taken]

/-- Steps nest no deeper than there are shards left to place. -/
theorem stepWithin?_of_le_depth {limit : Nat → Nat} {depth : Nat}
    (hcount : placed + count = p.sizes.length) (hdepth : count ≤ depth) :
    p.stepWithin? limit depth placed = p.stepWithin? limit count placed := by
  induction count generalizing placed depth with
  | zero =>
    have hplaced : placed = p.sizes.length := by simpa using hcount
    funext b
    rw [stepWithin?, stepWithin?, if_pos hplaced, if_pos hplaced]
  | succ count ih =>
    obtain ⟨depth, rfl⟩ := Nat.exists_eq_add_of_lt (Nat.lt_of_succ_le hdepth)
    have hnext : p.stepWithin? limit (count + depth) (placed + 1) =
        p.stepWithin? limit count (placed + 1) :=
      ih (by omega) (by omega)
    funext b
    rw [stepWithin?, stepWithin?]
    simp only [hnext]

theorem ends_of_step? {result : Bool × Board} (hcount : placed + count = p.sizes.length)
    (h : p.step? count placed b = some result) : p.Ends placed b result := by
  intro depth hdepth
  rw [step?, stepWithin?_of_le_depth hcount (by omega)]
  exact h

/--
From a board in balance, with the number of shards on it, a step comes to an end without a difference
below zero and without a sum above what a device had available. Either all shards are placed, those on
the board where they were, and the board is in balance; or the board is what it was, and no device for
every shard that keeps those on the board fits what is available. With the devices tried in their order
the result is that of the exact search.
-/
theorem step?_completes_or_restores (h : b.Balances p)
    (hplaced : b.assigned.countP (·.isSome) = placed) :
    ((∃ b', p.Ends placed b (true, b') ∧ b'.Balances p ∧ Completes p b (b'.seating p.sizes)) ∨
      (p.Ends placed b (false, b) ∧ ¬∃ seat, Completes p b seat)) ∧
    (p.order = List.range p.available.length → p.Ends placed b
      (b.after p.sizes (descend (p.sizes.length - placed) b.left (b.pending p.sizes)))) := by
  have hle : placed ≤ p.sizes.length := by
    rw [← hplaced, ← h.length_assigned]
    exact List.countP_le_length
  have hcount : placed + (p.sizes.length - placed) = p.sizes.length := Nat.add_sub_of_le hle
  refine ⟨?_, fun horder =>
    ends_of_step? hcount (stepWithin?_eq horder h.isFor h.length_left hcount)⟩
  rcases settles_step? h hplaced hcount with ⟨b', hstep, hbalances, hcompletes⟩ | ⟨hstep, hnot⟩
  · exact Or.inl ⟨b', ends_of_step? hcount hstep, hbalances, hcompletes⟩
  · refine Or.inr ⟨ends_of_step? hcount hstep, ?_⟩
    rintro ⟨seat, hcompletes⟩
    exact hnot seat hcompletes trivial

/-- The smallest of three shards is on the device that another one needs: both others are tried on the
larger device, and taken back. -/
theorem step?_completes_or_restores_of_blocked :
    let p : Problem := ⟨[3, 4, 5], [8, 4], [0, 1], .refl _⟩
    let b := (Board.start p.sizes p.available).place (shardAt p.sizes 0) 1
    b.Balances p ∧ b.assigned.countP (·.isSome) = 1 ∧
      p.step? 2 1 b = some (false, b) ∧ ¬∃ seat, Completes p b seat := by
  intro p b
  have hbalances : b.Balances p := Board.Balances.place (p := p) p.balances_start rfl
    (show 1 < p.available.length by decide) (by decide)
  have hplaced : b.assigned.countP (·.isSome) = 1 := by decide
  obtain ⟨hcases, hsearch⟩ := step?_completes_or_restores hbalances hplaced
  have hstep : p.step? 2 1 b = some (false, b) := hsearch rfl 2 (by decide)
  rcases hcases with ⟨b', hdone, -⟩ | ⟨-, hnot⟩
  · rw [hdone 2 (by decide)] at hstep
    cases hstep
  · exact ⟨hbalances, hplaced, hstep, hnot⟩

end Steps

end Problem

end GpuCluster.Placement
