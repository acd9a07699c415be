import Mathlib
import GpuCluster.Proofs.Placement.Accounting
import GpuCluster.Proofs.Placement.FirstFit
import GpuCluster.Proofs.Placement.Search

/-!
# Placement in words

Byte counts of a machine are words, on which a difference below zero and a sum beyond the largest
word are failures. First fit, the search and the accounting are run here on words. The search keeps
one board, on which it puts a shard down and, when that leads nowhere, takes it back; a limit for each
device says to how much memory it may come back. None of the three fails, and their results are those of
the exact algorithms.
-/

namespace GpuCluster.Placement

namespace Word

/-- A difference of words; nothing when it is below zero. -/
def sub? (a b : Nat) : Option Nat := if b ≤ a then some (a - b) else none

/-- A sum; nothing when it is beyond a limit. -/
def addUpTo? (limit a b : Nat) : Option Nat := if a + b ≤ limit then some (a + b) else none

/-- A sum of words; nothing when it is beyond the largest one. -/
def add? (a b : Nat) : Option Nat := addUpTo? maxBytes a b

theorem sub?_of_le {a b : Nat} (h : b ≤ a) : sub? a b = some (a - b) := if_pos h

theorem addUpTo?_of_le {limit a b : Nat} (h : a + b ≤ limit) : addUpTo? limit a b = some (a + b) :=
  if_pos h

theorem add?_of_le {a b : Nat} (h : a + b ≤ maxBytes) : add? a b = some (a + b) := addUpTo?_of_le h

end Word

theorem set_eq_takeFrom {free : List Nat} {position : Nat} (h : position < free.length) (n : Nat) :
    free.set position (free.getD position 0 - n) = takeFrom free position n := by
  rw [takeFrom, List.modify_eq_set, List.getElem?_eq_getElem h, List.getD_eq_getElem _ _ h]
  rfl

/-! ## First fit -/

def firstFitInWords? : (sizes free : List Nat) → Option (List Fate)
  | [], _ => some []
  | size :: rest, free =>
    match free.findIdx? (size ≤ ·) with
    | some position =>
      (Word.sub? (free.getD position 0) size).bind fun left =>
        (firstFitInWords? rest (free.set position left)).map (.placed position :: ·)
    | none => (firstFitInWords? rest free).map (.refused (largest free) :: ·)

theorem firstFitInWords?_eq (sizes free : List Nat) :
    firstFitInWords? sizes free = some (firstFit sizes free) := by
  induction sizes generalizing free with
  | nil => rfl
  | cons n rest ih =>
    rw [firstFitInWords?, firstFit]
    cases hfound : free.findIdx? (n ≤ ·) with
    | some position =>
      obtain ⟨hpos, hroom⟩ := room_of_findIdx? hfound
      simp only [Word.sub?_of_le hroom, Option.bind_some, set_eq_takeFrom hpos, ih, Option.map_some]
    | none => simp only [ih, Option.map_some]

/-! ## The search on one board -/

/-- The state of the search: the memory left on each device, and the position of each shard. -/
structure Board where
  left : List Nat
  assigned : List (Option Nat)

namespace Board

variable {sizes : List Nat} {limit : Nat → Nat} {b : Board} {s : Shard} {position : Nat}

def start (sizes free : List Nat) : Board := ⟨free, List.replicate sizes.length none⟩

/-- The shards that have no position. -/
def pending (sizes : List Nat) (b : Board) : List Shard :=
  (shardsOf sizes).filter fun s => (b.assigned.getD s.index none).isNone

def put? (b : Board) (s : Shard) (position : Nat) : Option Board :=
  (Word.sub? (b.left.getD position 0) s.size).map fun left =>
    ⟨b.left.set position left, b.assigned.set s.index (some position)⟩

/-- Takes a shard back; nothing if its device would then have more memory than its limit. -/
def takeBackUpTo? (limit : Nat → Nat) (b : Board) (s : Shard) (position : Nat) : Option Board :=
  (Word.addUpTo? (limit position) (b.left.getD position 0) s.size).map fun left =>
    ⟨b.left.set position left, b.assigned.set s.index none⟩

/-- The board with one more shard, which has room at its position. -/
def place (b : Board) (s : Shard) (position : Nat) : Board :=
  ⟨takeFrom b.left position s.size, b.assigned.set s.index (some position)⟩

def placeAll (sizes : List Nat) (b : Board) (placed : List (Nat × Nat)) : Board :=
  placed.foldl (fun b e => b.place ⟨e.1, sizes.getD e.1 0⟩ e.2) b

/-- The board has a place for every shard, and no device has more memory than its limit. -/
structure IsFor (sizes : List Nat) (limit : Nat → Nat) (b : Board) : Prop where
  length_assigned : b.assigned.length = sizes.length
  left_le : ∀ position, b.left.getD position 0 ≤ limit position

theorem IsFor.place (h : b.IsFor sizes limit) (s : Shard) (position : Nat) :
    (b.place s position).IsFor sizes limit where
  length_assigned := List.length_set.trans h.length_assigned
  left_le := by
    intro other
    have hle := h.left_le other
    rw [Board.place, getD_takeFrom]
    split
    · exact (Nat.sub_le ..).trans hle
    · exact hle

theorem mem_pending :
    s ∈ b.pending sizes ↔ s ∈ shardsOf sizes ∧ b.assigned.getD s.index none = none := by
  rw [pending, List.mem_filter, Option.isNone_iff_eq_none]

theorem put?_eq (hpos : position < b.left.length) (hroom : s.size ≤ b.left.getD position 0) :
    b.put? s position = some (b.place s position) := by
  rw [put?, Word.sub?_of_le hroom, Option.map_some, set_eq_takeFrom hpos, place]

theorem left_place_add (hroom : s.size ≤ b.left.getD position 0) :
    (b.place s position).left.getD position 0 + s.size = b.left.getD position 0 := by
  rw [place, getD_takeFrom, if_pos rfl]
  exact Nat.sub_add_cancel hroom

/-- With the memory that its position had, and without the shard, the board is what it was. -/
theorem restore_place (hnone : b.assigned.getD s.index none = none)
    (hpos : position < b.left.length) :
    (⟨(b.place s position).left.set position (b.left.getD position 0),
      (b.place s position).assigned.set s.index none⟩ : Board) = b := by
  have hleft : (b.place s position).left.set position (b.left.getD position 0) = b.left := by
    rw [place, takeFrom, List.getD_eq_getElem _ _ hpos]
    apply List.ext_getElem (by simp)
    intro i _ hi
    by_cases heq : position = i
    · subst heq
      simp
    · simp [heq]
  have hassigned : (b.place s position).assigned.set s.index none = b.assigned := by
    rw [place, List.set_set]
    apply List.ext_getElem (by simp)
    intro i _ hi
    by_cases heq : s.index = i
    · subst heq
      rw [List.getElem_set_self, ← hnone, List.getD_eq_getElem _ _ hi]
    · rw [List.getElem_set_ne heq]
  rw [hleft, hassigned]

/-- Taking a shard back restores the board. -/
theorem takeBackUpTo?_place (h : b.IsFor sizes limit) (hs : s ∈ b.pending sizes)
    (hpos : position < b.left.length) (hroom : s.size ≤ b.left.getD position 0) :
    (b.place s position).takeBackUpTo? limit s position = some b := by
  have hsum := left_place_add hroom
  rw [takeBackUpTo?, Word.addUpTo?_of_le (hsum.trans_le (h.left_le position)), Option.map_some, hsum,
    restore_place (mem_pending.mp hs).2 hpos]

theorem nodup_shardsOf (sizes : List Nat) : (shardsOf sizes).Nodup :=
  .of_map (·.index) (index_shardsOf sizes ▸ List.nodup_range)

theorem index_inj {t : Shard} (hs : s ∈ shardsOf sizes) (ht : t ∈ shardsOf sizes)
    (h : s.index = t.index) : s = t :=
  List.inj_on_of_nodup_map (index_shardsOf sizes ▸ List.nodup_range) hs ht h

theorem index_lt (hs : s ∈ shardsOf sizes) : s.index < sizes.length := by
  rw [← List.mem_range, ← index_shardsOf]
  exact List.mem_map_of_mem hs

theorem pending_place (h : b.assigned.length = sizes.length) (hs : s ∈ b.pending sizes) :
    (b.place s position).pending sizes = (b.pending sizes).erase s := by
  have hshard := (mem_pending.mp hs).1
  have hnodup : (b.pending sizes).Nodup := (nodup_shardsOf sizes).filter _
  rw [hnodup.erase_eq_filter, pending, pending, List.filter_filter]
  apply List.filter_congr
  intro t ht
  rw [place, List.getD_eq_getElem?_getD, List.getElem?_set]
  by_cases heq : s.index = t.index
  · obtain rfl := index_inj hshard ht heq
    simp [h, index_lt hshard]
  · have hne : t ≠ s := fun he => heq (by rw [he])
    simp [heq, hne]

end Board

/-- Tries the positions for a shard one after the other, and goes on with `next` from each. -/
def tryEach? (limit : Nat → Nat) (next : Board → Option (Bool × Board)) (s : Shard) :
    (positions : List Nat) → Board → Option (Bool × Board)
  | [], b => some (false, b)
  | position :: rest, b =>
    if b.left.getD position 0 < s.size then tryEach? limit next s rest b
    else do
      let (isDone, b) ← next (← b.put? s position)
      if isDone then return (true, b)
      tryEach? limit next s rest (← b.takeBackUpTo? limit s position)

/-- What is searched: the sizes of the shards, the memory of the devices, and the order in which the
devices are tried. -/
structure Problem where
  sizes : List Nat
  available : List Nat
  order : List Nat
  order_perm : order.Perm (List.range available.length)

namespace Problem

/-- The problem whose devices are tried in their order. -/
def inOrder (sizes available : List Nat) : Problem where
  sizes := sizes
  available := available
  order := List.range available.length
  order_perm := .refl _

/--
Goes on from a board on which some shards are placed; says whether all of them are in the end. There is
no result if a difference of memory is below zero, if a device comes to have more than its limit, or if
the steps nest deeper than `depth`.
-/
def stepWithin? (p : Problem) (limit : Nat → Nat) (depth placed : Nat) (b : Board) :
    Option (Bool × Board) :=
  if placed = p.sizes.length then some (true, b)
  else match tightest? b.left (b.pending p.sizes) with
  | none => some (true, b)
  | some s =>
    if fitCount b.left s.size = 0 then some (false, b)
    else match depth with
    | 0 => none
    | depth + 1 => tryEach? limit (p.stepWithin? limit depth (placed + 1)) s p.order b

end Problem

/-- The search on a board without shards; no memory may go beyond the largest word. -/
def searchInWords? (sizes free : List Nat) : Option (Bool × Board) :=
  (Problem.inOrder sizes free).stepWithin? (fun _ => maxBytes) sizes.length 0 (.start sizes free)

/-! ### One device after the other -/

section Devices

variable {sizes : List Nat} {limit : Nat → Nat} {next : Board → Option (Bool × Board)} {b b' : Board}
  {s : Shard} {position : Nat} {rest : List Nat}

theorem tryEach?_cons_of_no_room (h : b.left.getD position 0 < s.size) :
    tryEach? limit next s (position :: rest) b = tryEach? limit next s rest b := by
  rw [tryEach?, if_pos h]

variable (hpos : position < b.left.length) (hroom : s.size ≤ b.left.getD position 0)

include hpos hroom

theorem tryEach?_cons_of_done (hnext : next (b.place s position) = some (true, b')) :
    tryEach? limit next s (position :: rest) b = some (true, b') := by
  rw [tryEach?, if_neg hroom.not_gt, Board.put?_eq hpos hroom]
  simp [hnext]

/-- A shard that leads nowhere on a device is taken back, and the board is what it was. -/
theorem tryEach?_cons_of_not_done (h : b.IsFor sizes limit) (hs : s ∈ b.pending sizes)
    (hnext : next (b.place s position) = some (false, b.place s position)) :
    tryEach? limit next s (position :: rest) b = tryEach? limit next s rest b := by
  rw [tryEach?, if_neg hroom.not_gt, Board.put?_eq hpos hroom]
  simp [hnext, Board.takeBackUpTo?_place h hs hpos hroom]

end Devices

/-! ### The exact search -/

section Exact

variable {sizes : List Nat} {limit : Nat → Nat} {b : Board} {s : Shard}

/-- What a branch of the search leaves: a board with the shards that it placed, or the one it had. -/
def Board.after (sizes : List Nat) (b : Board) (found : Option (List (Nat × Nat))) : Bool × Board :=
  match found with
  | some placed => (true, b.placeAll sizes placed)
  | none => (false, b)

theorem tryEach?_eq (h : b.IsFor sizes limit) (hs : s ∈ b.pending sizes)
    {next : Board → Option (Bool × Board)} {found : Nat → Option (List (Nat × Nat))}
    {positions : List Nat} (hpos : ∀ position ∈ positions, position < b.left.length)
    (hnext : ∀ position < b.left.length, next (b.place s position) =
      some ((b.place s position).after sizes (found position))) :
    tryEach? limit next s positions b =
      some (b.after sizes ((positions.filter fun position => s.size ≤ b.left.getD position 0).findSome?
        fun position => (found position).map ((s.index, position) :: ·))) := by
  induction positions with
  | nil => rw [tryEach?]; rfl
  | cons position rest ih =>
    obtain ⟨hlt, hrest⟩ := List.forall_mem_cons.mp hpos
    by_cases hroom : s.size ≤ b.left.getD position 0
    · have hstep := hnext position hlt
      rw [List.filter_cons_of_pos (by simpa using hroom), List.findSome?_cons]
      cases hfound : found position with
      | some placed =>
        have hsize := sized_shardsOf sizes s (Board.mem_pending.mp hs).1
        rw [hfound] at hstep
        rw [tryEach?_cons_of_done hlt hroom hstep]
        simp only [Board.after, Option.map_some, Board.placeAll, List.foldl_cons, ← hsize]
      | none =>
        rw [hfound] at hstep
        rw [tryEach?_cons_of_not_done hlt hroom h hs hstep, ih hrest]
        rfl
    · rw [tryEach?_cons_of_no_room (Nat.lt_of_not_le hroom), ih hrest,
        List.filter_cons_of_neg (by simpa using hroom)]

theorem positionsWithRoom_of_fitCount_eq_zero {free : List Nat} {n : Nat}
    (h : fitCount free n = 0) : positionsWithRoom free n = [] := by
  rw [fitCount, List.countP_eq_zero] at h
  rw [positionsWithRoom, List.filter_eq_nil_iff]
  intro position hposition
  have hlt := List.mem_range.mp hposition
  rw [List.getD_eq_getElem _ _ hlt]
  exact h _ (List.getElem_mem hlt)

/-- Within limits that the board keeps, a step ends without failure and finds what the search finds. -/
theorem Problem.stepWithin?_eq {p : Problem} {count placed : Nat}
    (horder : p.order = List.range p.available.length) (h : b.IsFor p.sizes limit)
    (hlength : b.left.length = p.available.length) (hcount : placed + count = p.sizes.length) :
    p.stepWithin? limit count placed b =
      some (b.after p.sizes (descend count b.left (b.pending p.sizes))) := by
  -- Each position is tried on the board as it was: taking a shard back restores it.
  induction count generalizing placed b with
  | zero =>
    rw [stepWithin?, if_pos (by simpa using hcount)]
    rfl
  | succ count ih =>
    rw [stepWithin?, if_neg (by omega), descend]
    cases hchosen : tightest? b.left (b.pending p.sizes) with
    | none => rfl
    | some s =>
      have hs := mem_of_tightest? hchosen
      dsimp only
      split
      · rename_i hzero
        rw [positionsWithRoom_of_fitCount_eq_zero hzero]
        rfl
      · rw [horder, ← hlength]
        refine tryEach?_eq h hs (fun position => List.mem_range.mp) fun position _ => ?_
        rw [ih (h.place s position) ((length_takeFrom ..).trans hlength) (by omega),
          Board.pending_place h.length_assigned hs]
        rfl

theorem searchInWords?_eq {sizes free : List Nat} (h : ∀ n ∈ free, n ≤ maxBytes) :
    searchInWords? sizes free =
      some ((Board.start sizes free).after sizes (search? sizes free)) := by
  have hfor : (Board.start sizes free).IsFor sizes fun _ => maxBytes := by
    refine ⟨List.length_replicate, fun position => ?_⟩
    by_cases hlt : position < free.length
    · rw [Board.start, List.getD_eq_getElem _ _ hlt]
      exact h _ (List.getElem_mem hlt)
    · rw [Board.start, List.getD_eq_default _ _ (Nat.le_of_not_lt hlt)]
      exact Nat.zero_le _
  have hpending : (Board.start sizes free).pending sizes = shardsOf sizes := by
    rw [Board.pending, List.filter_eq_self]
    intro s hs
    simp [Board.start, Board.index_lt hs]
  have hstep := Problem.stepWithin?_eq (p := .inOrder sizes free) rfl hfor rfl (Nat.zero_add _)
  rw [Problem.inOrder, hpending] at hstep
  exact hstep

end Exact

/-! ## Accounting -/

def bytesInWords? (sizes : List Nat) :
    List (Nat × DeviceId) → Table DeviceId Nat → Option (Table DeviceId Nat)
  | [], bytes => some bytes
  | (shard, device) :: rest, bytes =>
    (Word.add? ((bytes.get? device).getD 0) (sizes.getD shard 0)).bind fun n =>
      bytesInWords? sizes rest (bytes.insert device n)

theorem bytesInWords?_eq {sizes : List Nat} {entries : List (Nat × DeviceId)}
    {bytes : Table DeviceId Nat}
    (h : ∀ device, (bytes.get? device).getD 0 + load (sizes.getD · 0) entries device ≤ maxBytes) :
    bytesInWords? sizes entries bytes =
      some (entries.foldl (fun bytes e => Assignment.addBytes sizes bytes e.1 e.2) bytes) := by
  induction entries generalizing bytes with
  | nil => rfl
  | cons e rest ih =>
    obtain ⟨shard, target⟩ := e
    have hsum : (bytes.get? target).getD 0 + sizes.getD shard 0 ≤ maxBytes := by
      have := h target
      rw [load_cons, if_pos rfl] at this
      omega
    rw [bytesInWords?, Word.add?_of_le hsum, Option.bind_some, List.foldl_cons]
    apply ih
    intro device
    have := h device
    rw [load_cons] at this
    rw [Table.get?_insert]
    split
    · rename_i heq
      subst heq
      rw [if_pos rfl] at this
      rw [Option.getD_some]
      omega
    · rename_i hne
      rw [if_neg hne] at this
      omega

theorem bytesInWords?_of {placements : Table Nat DeviceId} {sizes : List Nat} {method : Method}
    {heterogeneous : Bool}
    (h : ∀ id bytes, (Assignment.of placements sizes method heterogeneous).bytes.get? id = some bytes →
      bytes ≤ maxBytes) :
    bytesInWords? sizes placements.entries .empty =
      some (Assignment.of placements sizes method heterogeneous).bytes := by
  apply bytesInWords?_eq
  intro device
  rw [Table.get?_empty, Option.getD_none, Nat.zero_add]
  by_cases hmem : device ∈ placements.values
  · exact h device _ ((Assignment.get?_bytes_of ..).trans (if_pos hmem))
  · exact (load_eq_zero hmem).trans_le (Nat.zero_le _)

end GpuCluster.Placement
