import Mathlib
import GpuCluster.Placement.Solve

/-!
# Ranking

Scores and the devices of a pool are ranked alike: by descending rank, and then by ascending id. As long
as the ids are distinct there is one ranking, in whatever order the ranked things are listed. Things that
compare equal keep the order in which they are listed, so that a list has one ranking in any case. The best
score with enough memory is the first one in the ranking that has it.
-/

namespace GpuCluster

open Std

/-! ## Ties -/

section Ties

variable {α : Type} (cmp : α → α → Ordering)

/-- The members of a list that compare equal to `a`. -/
def tied (a : α) (l : List α) : List α := l.filter (cmp · a = .eq)

/-- A ranking of a list: the same things in order, and those that compare equal as the list has them. -/
structure IsRanking (l ranking : List α) : Prop where
  perm : ranking.Perm l
  ordered : ranking.Pairwise fun a b => (cmp a b).isLE = true
  stable : ∀ a, tied cmp a ranking = tied cmp a l

variable {cmp} {a b : α} {l l' : List α}

theorem tied_cons_of_eq (h : cmp b a = .eq) : tied cmp a (b :: l) = b :: tied cmp a l :=
  List.filter_cons_of_pos (decide_eq_true h)

theorem tied_cons_of_ne (h : cmp b a ≠ .eq) : tied cmp a (b :: l) = tied cmp a l :=
  List.filter_cons_of_neg (by simpa using h)

variable [TransCmp cmp]

theorem isLE_or_isLE (a b : α) : ((cmp a b).isLE || (cmp b a).isLE) = true := by
  have hswap : cmp b a = (cmp a b).swap := OrientedCmp.eq_swap
  rw [hswap]
  cases cmp a b <;> rfl

/-- What ties is in order already, so that sorting does not move it. -/
theorem tied_mergeSort (a : α) (l : List α) :
    tied cmp a (l.mergeSort fun b c => (cmp b c).isLE) = tied cmp a l := by
  have hordered : (tied cmp a l).Pairwise fun b c => (cmp b c).isLE = true := by
    apply List.pairwise_of_forall_mem_list
    intro b hb c hc
    have hb : cmp b a = .eq := of_decide_eq_true (List.mem_filter.mp hb).2
    have hc : cmp c a = .eq := of_decide_eq_true (List.mem_filter.mp hc).2
    rw [TransCmp.eq_trans hb (OrientedCmp.eq_symm hc)]
    rfl
  have hsublist : (tied cmp a l).Sublist (l.mergeSort fun b c => (cmp b c).isLE) :=
    List.sublist_mergeSort (fun _ _ _ => TransCmp.isLE_trans) isLE_or_isLE hordered List.filter_sublist
  have hfilter : (tied cmp a l).Sublist (tied cmp a (l.mergeSort fun b c => (cmp b c).isLE)) := by
    have hidem : tied cmp a (tied cmp a l) = tied cmp a l := by simp [tied]
    rw [← hidem]
    exact hsublist.filter _
  exact (hfilter.eq_of_length ((List.mergeSort_perm l _).filter _).length_eq.symm).symm

theorem isRanking_mergeSort (l : List α) : IsRanking cmp l (l.mergeSort fun a b => (cmp a b).isLE) where
  perm := List.mergeSort_perm ..
  ordered := List.pairwise_mergeSort (fun _ _ _ => TransCmp.isLE_trans) isLE_or_isLE l
  stable a := tied_mergeSort a l

theorem isLE_of_mem_cons (hl : (a :: l).Pairwise fun a b => (cmp a b).isLE = true) (hb : b ∈ a :: l) :
    (cmp a b).isLE = true := by
  rcases List.mem_cons.mp hb with rfl | hb
  · exact Ordering.isLE_of_eq_eq ReflCmp.compare_self
  · exact (List.pairwise_cons.mp hl).1 b hb

/-- Lists in order with the same ties are equal. -/
theorem eq_of_ordered_of_tied (hperm : l.Perm l') (hl : l.Pairwise fun a b => (cmp a b).isLE = true)
    (hl' : l'.Pairwise fun a b => (cmp a b).isLE = true) (htied : ∀ a, tied cmp a l = tied cmp a l') :
    l = l' := by
  induction l generalizing l' with
  | nil => exact hperm.nil_eq
  | cons a l ih =>
    cases l' with
    | nil => exact hperm.eq_nil
    | cons b l' =>
      -- The first things compare equal, and so each is the first one in the list of its ties.
      have heq : cmp a b = .eq :=
        OrientedCmp.isLE_antisymm (isLE_of_mem_cons hl (hperm.mem_iff.mpr List.mem_cons_self))
          (isLE_of_mem_cons hl' (hperm.mem_iff.mp List.mem_cons_self))
      have hfirst := htied b
      rw [tied_cons_of_eq heq, tied_cons_of_eq ReflCmp.compare_self] at hfirst
      obtain rfl : a = b := (List.cons.inj hfirst).1
      congr 1
      apply ih hperm.cons_inv (List.pairwise_cons.mp hl).2 (List.pairwise_cons.mp hl').2
      intro c
      have hc := htied c
      by_cases hac : cmp a c = .eq
      · rw [tied_cons_of_eq hac, tied_cons_of_eq hac] at hc
        exact (List.cons.inj hc).2
      · rwa [tied_cons_of_ne hac, tied_cons_of_ne hac] at hc

/-- A list has one ranking. -/
theorem isRanking_iff {ranking : List α} :
    IsRanking cmp l ranking ↔ ranking = l.mergeSort fun a b => (cmp a b).isLE := by
  have hsorted : IsRanking cmp l _ := isRanking_mergeSort l
  constructor
  · intro h
    apply eq_of_ordered_of_tied (h.perm.trans hsorted.perm.symm) h.ordered hsorted.ordered
    exact fun a => (h.stable a).trans (hsorted.stable a).symm
  · rintro rfl
    exact hsorted

end Ties

/-! ## Distinct names -/

section Ranking

variable {α : Type} (rank : α → Int) (name : α → DeviceId)

instance transCmp_descending : TransCmp fun a b : α => compare (rank b) (rank a) where
  eq_swap := OrientedOrd.eq_swap
  isLE_trans hab hbc := TransOrd.isLE_trans hbc hab

/-- Descending rank, then ascending name. -/
def compareRanked : α → α → Ordering :=
  compareLex (fun a b => compare (rank b) (rank a)) (compareOn name)

instance transCmp_compareRanked : TransCmp (compareRanked rank name) := inferInstanceAs (TransCmp (compareLex _ _))

/-- `a` may stand before `b`. -/
def ranksBefore (a b : α) : Bool := (compareRanked rank name a b).isLE

variable {rank name}

theorem ranksBefore_trans (a b c : α) (hab : ranksBefore rank name a b = true)
    (hbc : ranksBefore rank name b c = true) : ranksBefore rank name a c = true :=
  TransCmp.isLE_trans hab hbc

theorem ranksBefore_total (a b : α) :
    (ranksBefore rank name a b || ranksBefore rank name b a) = true :=
  isLE_or_isLE a b

theorem name_eq_of_ranksBefore {a b : α} (hab : ranksBefore rank name a b = true)
    (hba : ranksBefore rank name b a = true) : name a = name b := by
  have heq : compareRanked rank name a b = .eq := OrientedCmp.isLE_antisymm hab hba
  exact LawfulEqOrd.eq_of_compare (compareLex_eq_eq.mp heq).2

theorem pairwise_ranking (l : List α) :
    (l.mergeSort (ranksBefore rank name)).Pairwise (ranksBefore rank name · · = true) :=
  List.pairwise_mergeSort ranksBefore_trans ranksBefore_total l

/-- Things with distinct names have one ranking. -/
theorem ranking_eq_of_perm {l l' : List α} (hnames : (l.map name).Nodup) (h : l.Perm l') :
    l.mergeSort (ranksBefore rank name) = l'.mergeSort (ranksBefore rank name) := by
  refine List.Perm.eq_of_pairwise (fun a b ha hb hab hba => ?_) (pairwise_ranking l)
    (pairwise_ranking l') (((List.mergeSort_perm ..).trans h).trans (List.mergeSort_perm ..).symm)
  rw [List.mem_mergeSort] at ha hb
  exact List.inj_on_of_nodup_map hnames ha (h.mem_iff.mpr hb) (name_eq_of_ranksBefore hab hba)

end Ranking

namespace Placement

theorem precedes_eq_ranksBefore : precedes = ranksBefore (·.score.rank) (·.id) := rfl

/-- Devices with distinct ids are tried in one order. -/
theorem tryOrder_eq_of_perm {devices devices' : List PoolDevice} (hids : (devices.map (·.id)).Nodup)
    (h : devices.Perm devices') : tryOrder devices = tryOrder devices' :=
  ranking_eq_of_perm hids h

end Placement

namespace Score

variable {s t : Score Number.Extended} {l : List (Score Number.Extended)}

theorem precedes_eq_ranksBefore : precedes = ranksBefore (·.value.rank) (·.deviceId) := rfl

instance transCmp_compareRank : TransCmp compareRank :=
  inferInstanceAs (TransCmp (compareRanked (fun s : Score Number.Extended => s.value.rank) (·.deviceId)))

theorem precedes_trans {u : Score Number.Extended} (hst : s.precedes t = true)
    (htu : t.precedes u = true) : s.precedes u = true := by
  rw [precedes_eq_ranksBefore] at *
  exact ranksBefore_trans s t u hst htu

theorem precedes_total (s t : Score Number.Extended) : (s.precedes t || t.precedes s) = true := by
  rw [precedes_eq_ranksBefore]
  exact ranksBefore_total s t

theorem precedes_of_not (h : ¬s.precedes t = true) : t.precedes s = true :=
  (Bool.or_eq_true_iff.mp (precedes_total s t)).resolve_left h

/-! ## The best score -/

/-- The better of a score and one that comes later. -/
def best (s t : Score Number.Extended) : Score Number.Extended := if s.precedes t then s else t

theorem best_assoc (s t u : Score Number.Extended) : best (best s t) u = best s (best t u) := by
  simp only [best]
  by_cases hst : s.precedes t
  · by_cases htu : t.precedes u
    · simp [hst, htu, precedes_trans hst htu]
    · simp [hst, htu]
  · by_cases htu : t.precedes u
    · simp [hst, htu]
    · -- A score before the last one would be before the middle one.
      have hsu : ¬s.precedes u = true := fun hsu => hst (precedes_trans hsu (precedes_of_not htu))
      simp [hst, htu, hsu]

theorem better_some (s t : Score Number.Extended) : better (some s) t = some (best s t) := by
  rw [better, best]
  split <;> rfl

/-- The scores of a list can be compared with the first one after all others. -/
theorem foldl_better_some (s : Score Number.Extended) (l : List (Score Number.Extended)) :
    l.foldl better (some s) = some ((l.foldl better none).elim s (best s)) := by
  induction l generalizing s with
  | nil => rfl
  | cons t l ih =>
    rw [List.foldl_cons, List.foldl_cons, better_some, ih, better, ih]
    cases l.foldl better none with
    | none => rfl
    | some u => exact congrArg some (best_assoc s t u)

/-- The best score that passes a test is the first one in the ranking that does. -/
theorem foldl_better_filter (p : Score Number.Extended → Bool) (l : List (Score Number.Extended)) :
    (l.filter p).foldl better none = (l.mergeSort precedes).find? p := by
  induction l with
  | nil => simp
  | cons s l ih =>
    -- The ranking without the first score splits where that score stands.
    obtain ⟨before, after, hranking, hrest, hbefore⟩ :=
      @List.mergeSort_cons _ precedes (fun _ _ _ => precedes_trans) precedes_total s l
    rw [hrest] at ih
    rw [hranking, List.find?_append, List.find?_cons]
    by_cases hs : p s
    · rw [List.filter_cons_of_pos hs, List.foldl_cons, better, foldl_better_some, ih,
        List.find?_append, hs]
      cases hfound : before.find? p with
      | some t =>
        have hst := hbefore t (List.mem_of_find?_eq_some hfound)
        simp_all [best]
      | none =>
        cases hlater : after.find? p with
        | none => rfl
        | some t =>
          have hsorted : (before ++ s :: after).Pairwise (precedes · · = true) :=
            hranking ▸ pairwise_ranking (s :: l)
          have hst : s.precedes t = true :=
            (List.pairwise_cons.mp (List.pairwise_append.mp hsorted).2.1).1 t
              (List.mem_of_find?_eq_some hlater)
          exact congrArg some (if_pos hst)
    · rw [List.filter_cons_of_neg hs, ih, List.find?_append, Bool.eq_false_iff.mpr hs]

theorem selectBest_eq_find? (p : ScoringPolicy Float) (candidates : List (Candidate Float))
    (minFree : Nat) : selectBest p candidates minFree = (rankAll p candidates).find? (minFree ≤ ·.free) :=
  foldl_better_filter ..

theorem rankAll_ids_perm (p : ScoringPolicy Float) (candidates : List (Candidate Float)) :
    ((rankAll p candidates).map (·.deviceId)).Perm (candidates.map (·.device.id)) := by
  refine ((List.mergeSort_perm ..).map _).trans (.of_eq ?_)
  rw [List.map_map]
  rfl

/-- Ranking and selection agree: the candidates have one ranking, and the best candidate with enough memory
is the first one in it that has it. -/
theorem selectBest_agrees_with_rankAll (p : ScoringPolicy Float) (candidates : List (Candidate Float))
    (minFree : Nat) :
    (∀ ranking, IsRanking compareRank (candidates.map (ofDoubles p)) ranking ↔ ranking = rankAll p candidates) ∧
      selectBest p candidates minFree = (rankAll p candidates).find? (minFree ≤ ·.free) := by
  constructor
  · exact fun ranking => isRanking_iff
  · exact selectBest_eq_find? p candidates minFree

/-! ## Candidates with distinct ids -/

theorem rankAll_eq_of_perm (p : ScoringPolicy Float) {candidates candidates' : List (Candidate Float)}
    (hids : (candidates.map (·.device.id)).Nodup) (h : candidates.Perm candidates') :
    rankAll p candidates = rankAll p candidates' := by
  refine ranking_eq_of_perm ?_ (h.map (ofDoubles p))
  rwa [List.map_map]

theorem selectBest_eq_of_perm (p : ScoringPolicy Float)
    {candidates candidates' : List (Candidate Float)}
    (hids : (candidates.map (·.device.id)).Nodup) (h : candidates.Perm candidates') (minFree : Nat) :
    selectBest p candidates minFree = selectBest p candidates' minFree := by
  rw [selectBest_eq_find?, selectBest_eq_find?, rankAll_eq_of_perm p hids h]

end Score

end GpuCluster
