import Mathlib
import GpuCluster.Distribution.Split

/-!
# Rounds under a cap

A round hands one item to each open device with room. While there is room for everything that is left
over, a round hands out at least one item, so that the rounds come to an end. No item is lost on the way,
and a closed device gets none.
-/

namespace GpuCluster.Distribution

/-! ## One round -/

/-- What rounds may do to a holding. -/
structure Receives (cap : Nat) (h h' : Holding) : Prop where
  isOpen : h'.isOpen = h.isOpen
  closed : h.isOpen = false → h'.count = h.count
  le : h.count ≤ h'.count
  le_max : h'.count ≤ max h.count cap

section Receives

variable {cap : Nat} {h h' h'' : Holding} {holdings holdings' : List Holding}

theorem Receives.refl (cap : Nat) (h : Holding) : Receives cap h h :=
  ⟨rfl, fun _ => rfl, le_rfl, le_max_left _ _⟩

theorem Receives.trans (hfirst : Receives cap h h') (hsecond : Receives cap h' h'') :
    Receives cap h h'' where
  isOpen := hsecond.isOpen.trans hfirst.isOpen
  closed hclosed := (hsecond.closed (hfirst.isOpen.trans hclosed)).trans (hfirst.closed hclosed)
  le := hfirst.le.trans hsecond.le
  le_max := by
    have hle := hfirst.le_max
    have hle' := hsecond.le_max
    omega

theorem receives_succ (hopen : h.isOpen = true) (hroom : h.count < cap) :
    Receives cap h { h with count := h.count + 1 } where
  isOpen := rfl
  closed hclosed := by
    rw [hopen] at hclosed
    cases hclosed
  le := Nat.le_succ _
  le_max := by
    dsimp only
    omega

theorem forall₂_refl (cap : Nat) (holdings : List Holding) :
    List.Forall₂ (Receives cap) holdings holdings :=
  List.forall₂_same.mpr fun h _ => .refl cap h

theorem forall₂_trans {first second third : List Holding}
    (h : List.Forall₂ (Receives cap) first second) (h' : List.Forall₂ (Receives cap) second third) :
    List.Forall₂ (Receives cap) first third := by
  induction h generalizing third with
  | nil => exact h'
  | cons hhead _ ih =>
    cases h' with
    | cons hhead' htail' => exact .cons (hhead.trans hhead') (ih htail')

theorem map_isOpen_eq (h : List.Forall₂ (Receives cap) holdings holdings') :
    holdings'.map (·.isOpen) = holdings.map (·.isOpen) := by
  induction h with
  | nil => rfl
  | cons hhead _ ih => rw [List.map_cons, List.map_cons, hhead.isOpen, ih]

theorem exists_receives (h : List.Forall₂ (Receives cap) holdings holdings') (hmem : h' ∈ holdings') :
    ∃ hd ∈ holdings, Receives cap hd h' := by
  induction h with
  | nil => cases hmem
  | cons hhead _ ih =>
    rcases List.mem_cons.mp hmem with rfl | hmem
    · exact ⟨_, List.mem_cons_self, hhead⟩
    · obtain ⟨hd, hhd, hreceives⟩ := ih hmem
      exact ⟨hd, List.mem_cons_of_mem _ hhd, hreceives⟩

end Receives

/-- How many items the open devices can still take. -/
def room (cap : Nat) (holdings : List Holding) : Nat :=
  Number.total (holdings.map fun h => if h.isOpen then cap - h.count else 0)

section HandOut

variable (cap items : Nat) (holdings : List Holding)

theorem forall₂_handOut :
    List.Forall₂ (Receives cap) holdings (handOut cap items holdings).1 := by
  fun_induction handOut cap items holdings with
  | case1 items => exact .nil
  | case2 holdings => exact forall₂_refl cap holdings
  | case3 items h rest hroom rest' left heq ih =>
    rw [Bool.and_eq_true, decide_eq_true_eq] at hroom
    rw [heq] at ih
    exact .cons (receives_succ hroom.1 hroom.2) ih
  | case4 items h rest hroom rest' left heq ih =>
    rw [heq] at ih
    exact .cons (.refl cap h) ih

theorem itemCount_handOut :
    itemCount (handOut cap items holdings).1 + (handOut cap items holdings).2 =
      itemCount holdings + items := by
  fun_induction handOut cap items holdings with
  | case1 items => rfl
  | case2 holdings => rfl
  | case3 items h rest hroom rest' left heq ih =>
    rw [heq] at ih
    simp only [itemCount, List.map_cons, Number.total_cons] at ih ⊢
    omega
  | case4 items h rest hroom rest' left heq ih =>
    rw [heq] at ih
    simp only [itemCount, List.map_cons, Number.total_cons] at ih ⊢
    omega

theorem room_handOut :
    room cap (handOut cap items holdings).1 + items =
      room cap holdings + (handOut cap items holdings).2 := by
  fun_induction handOut cap items holdings with
  | case1 items => rfl
  | case2 holdings => rfl
  | case3 items h rest hroom rest' left heq ih =>
    rw [Bool.and_eq_true, decide_eq_true_eq] at hroom
    obtain ⟨hopen, hlt⟩ := hroom
    have hsucc : cap - h.count = cap - (h.count + 1) + 1 := by omega
    rw [heq] at ih
    simp only [room, List.map_cons, Number.total_cons, hopen, if_true] at ih ⊢
    omega
  | case4 items h rest hroom rest' left heq ih =>
    rw [heq] at ih
    simp only [room, List.map_cons, Number.total_cons] at ih ⊢
    omega

theorem handOut_le : (handOut cap items holdings).2 ≤ items := by
  fun_induction handOut cap items holdings with
  | case1 items => rfl
  | case2 holdings => rfl
  | case3 items h rest hroom rest' left heq ih =>
    rw [heq] at ih
    exact ih.trans (Nat.le_succ items)
  | case4 items h rest hroom rest' left heq ih =>
    rw [heq] at ih
    exact ih

theorem handOut_lt (hitems : 0 < items) (hroom : 0 < room cap holdings) :
    (handOut cap items holdings).2 < items := by
  fun_induction handOut cap items holdings with
  | case1 items => cases hroom
  | case2 holdings => cases hitems
  | case3 items h rest hroom' rest' left heq ih =>
    have hle := handOut_le cap items rest
    rw [heq] at hle
    exact Nat.lt_succ_of_le hle
  | case4 items h rest hroom' rest' left heq ih =>
    rw [heq] at ih
    apply ih hitems
    rw [room, List.map_cons, Number.total_cons] at hroom
    split at hroom
    · rename_i hopen
      have hfull : ¬h.count < cap := fun hlt => hroom' (by simp [hopen, hlt])
      rw [Nat.sub_eq_zero_of_le (not_lt.mp hfull), Nat.zero_add] at hroom
      exact hroom
    · rwa [Nat.zero_add] at hroom

end HandOut

/-! ## All rounds -/

/-- The holdings that rounds end in, when nothing is left over. -/
inductive Rounds (cap : Nat) : (items : Nat) → List Holding → List Holding → Prop where
  | done (holdings : List Holding) : Rounds cap 0 holdings holdings
  | round {items : Nat} {holdings result : List Holding} (hitems : 0 < items)
      (h : Rounds cap (handOut cap items holdings).2 (handOut cap items holdings).1 result) :
      Rounds cap items holdings result

section Rounds

variable {cap items : Nat} {holdings result : List Holding}

theorem Rounds.forall₂ (h : Rounds cap items holdings result) :
    List.Forall₂ (Receives cap) holdings result := by
  induction h with
  | done holdings => exact forall₂_refl cap holdings
  | round _ _ ih => exact forall₂_trans (forall₂_handOut ..) ih

theorem Rounds.itemCount_eq (h : Rounds cap items holdings result) :
    itemCount result = itemCount holdings + items := by
  induction h with
  | done holdings => rfl
  | @round items holdings _ _ _ ih => exact ih.trans (itemCount_handOut cap items holdings)

/-- Rounds end while there is room for all items; as many rounds as items suffice. -/
theorem rounds_refill {rounds : Nat} (hroom : items ≤ room cap holdings) (hrounds : items ≤ rounds) :
    Rounds cap items holdings (refill cap rounds items holdings) := by
  induction rounds generalizing items holdings with
  | zero =>
    obtain rfl := Nat.le_zero.mp hrounds
    exact .done holdings
  | succ rounds ih =>
    rcases Nat.eq_zero_or_pos items with rfl | hpos
    · exact .done holdings
    · have hlt := handOut_lt cap items holdings hpos (hpos.trans_le hroom)
      -- The room shrinks by what is handed out, so that there is enough for what is left.
      have heq := room_handOut cap items holdings
      obtain ⟨items, rfl⟩ := Nat.exists_eq_add_of_lt hpos
      refine .round hpos (ih ?_ ?_) <;> omega

end Rounds

/-! ## From the cut to the end -/

section ApplyCap

variable {cap : Nat} {holdings : List Holding}

theorem itemCount_cutOff (cap : Nat) (holdings : List Holding) :
    itemCount (cutOff cap holdings) + excess cap holdings = itemCount holdings := by
  induction holdings with
  | nil => rfl
  | cons h rest ih =>
    simp only [itemCount, cutOff, excess, List.map_cons, Number.total_cons] at ih ⊢
    omega

theorem room_cutOff (cap : Nat) (hclosed : ∀ h ∈ holdings, h.isOpen = false → h.count = 0) :
    room cap (cutOff cap holdings) + itemCount (cutOff cap holdings) = openCount holdings * cap := by
  induction holdings with
  | nil => simp [room, cutOff, itemCount, openCount]
  | cons h rest ih =>
    rw [List.forall_mem_cons] at hclosed
    have ih := ih hclosed.2
    simp only [room, cutOff, itemCount, openCount, List.map_cons, Number.total_cons,
      List.countP_cons] at ih ⊢
    cases hopen : h.isOpen with
    | true =>
      have hcut : cap - min h.count cap + min h.count cap = cap := by omega
      simp only [if_true, Nat.add_mul, Nat.one_mul]
      omega
    | false =>
      simp only [hclosed.1 hopen, Bool.false_eq_true, if_false, Nat.zero_min, Nat.zero_add,
        Nat.add_zero]
      exact ih

theorem rounds_applyCap (hclosed : ∀ h ∈ holdings, h.isOpen = false → h.count = 0)
    (hle : itemCount holdings ≤ openCount holdings * cap) :
    Rounds cap (excess cap holdings) (cutOff cap holdings) (applyCap cap holdings) := by
  have hcut := itemCount_cutOff cap holdings
  have hroom := room_cutOff cap hclosed
  exact rounds_refill (by omega) le_rfl

end ApplyCap

/-! ## Optional caps -/

/-- The room that an optional cap leaves to a number of devices is not held by a word. -/
def Overflows (cap : Option Nat) (devices : Nat) : Prop :=
  ∃ c, cap = some c ∧ UInt64.size ≤ devices * c

theorem roomInWord_le (cap devices : Nat) : roomInWord cap devices ≤ devices * cap :=
  Nat.mod_le _ _

/-- Too little room in the word is too little room, or there is more than a word holds. -/
theorem lt_or_overflows {c devices items : Nat} (h : roomInWord c devices < items) :
    devices * c < items ∨ Overflows (some c) devices := by
  rcases lt_or_ge (devices * c) UInt64.size with hlt | hge
  · rw [roomInWord, Nat.mod_eq_of_lt hlt] at h
    exact Or.inl h
  · exact Or.inr ⟨c, rfl, hge⟩

/-- What an optional cap makes of holdings: the rounds end, within the cap, and no item is lost. -/
structure Settles (cap : Option Nat) (holdings result : List Holding) : Prop where
  itemCount_eq : itemCount result = itemCount holdings
  isOpen_eq : result.map (·.isOpen) = holdings.map (·.isOpen)
  closed : ∀ h ∈ result, h.isOpen = false → h.count = 0
  le_cap : ∀ c, cap = some c → ∀ h ∈ result, h.count ≤ c
  rounds : ∀ c, cap = some c → Rounds c (excess c holdings) (cutOff c holdings) result

section Capped

variable {holdings : List Holding} (hclosed : ∀ h ∈ holdings, h.isOpen = false → h.count = 0)

include hclosed

theorem settles_none : Settles none holdings holdings where
  itemCount_eq := rfl
  isOpen_eq := rfl
  closed := hclosed
  le_cap _ hcap := by cases hcap
  rounds _ hcap := by cases hcap

theorem settles_applyCap {c : Nat} (hle : itemCount holdings ≤ openCount holdings * c) :
    Settles (some c) holdings (applyCap c holdings) := by
  have hrounds := rounds_applyCap hclosed hle
  constructor
  case itemCount_eq => exact hrounds.itemCount_eq.trans (itemCount_cutOff c holdings)
  case isOpen_eq =>
    rw [map_isOpen_eq hrounds.forall₂, cutOff, List.map_map]
    rfl
  case closed =>
    intro h hmem hopen
    obtain ⟨_, hcut, hreceives⟩ := exists_receives hrounds.forall₂ hmem
    obtain ⟨h', hmem', rfl⟩ := List.mem_map.mp hcut
    have hopen' := hreceives.isOpen.symm.trans hopen
    rw [hreceives.closed hopen', hclosed h' hmem' hopen', Nat.zero_min]
  case le_cap =>
    intro c' hcap h hmem
    obtain rfl := Option.some.inj hcap
    obtain ⟨_, hcut, hreceives⟩ := exists_receives hrounds.forall₂ hmem
    obtain ⟨h', -, rfl⟩ := List.mem_map.mp hcut
    have hle := hreceives.le_max
    dsimp only at hle
    omega
  case rounds =>
    intro c' hcap
    obtain rfl := Option.some.inj hcap
    exact hrounds

/-- A cap is too tight for the items or leaves more room than a word holds, or they are settled under it. -/
theorem capped_cases (cap : Option Nat) :
    (∃ c, cap = some c ∧
      (openCount holdings * c < itemCount holdings ∨ Overflows cap (openCount holdings)) ∧
      capped cap holdings = .error (.capExceeded (itemCount holdings) c (openCount holdings))) ∨
    ∃ result, capped cap holdings = .ok (result.map (·.count)) ∧ Settles cap holdings result ∧
      ∀ c, cap = some c → itemCount holdings ≤ openCount holdings * c := by
  cases cap with
  | none => exact Or.inr ⟨holdings, rfl, settles_none hclosed, fun _ hcap => by cases hcap⟩
  | some c =>
    rw [capped]
    split
    · rename_i hlt
      exact Or.inl ⟨c, rfl, lt_or_overflows hlt, rfl⟩
    · rename_i hle
      have hle := (not_lt.mp hle).trans (roomInWord_le c _)
      refine Or.inr ⟨_, rfl, settles_applyCap hclosed hle, ?_⟩
      intro c' hcap
      obtain rfl := Option.some.inj hcap
      exact hle

end Capped

end GpuCluster.Distribution
