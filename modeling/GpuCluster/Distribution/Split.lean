import GpuCluster.Device
import GpuCluster.Distribution.Cap
import GpuCluster.Scalar
import GpuCluster.Table

/-!
# Splitting work across devices

Items are handed out in contiguous runs. A uniform split gives all devices the same number, the
first ones taking what does not divide evenly. A split by capacity gives each device its share
rounded down, and the heaviest device the remainder.
-/

namespace GpuCluster.Distribution

open Scalar

inductive Strategy where
  | uniform
  | capacity
  deriving DecidableEq, Repr

namespace Strategy

def name : Strategy → String
  | uniform => "uniform"
  | capacity => "capacity"

def names : List (String × Strategy) := [("uniform", uniform), ("capacity", capacity)]

/-- All spellings of a strategy, in lower case. -/
def spellings : List (String × Strategy) :=
  [("uniform", uniform), ("even", uniform), ("capacity", capacity), ("weighted", capacity)]

/-- The strategy of that name in any case, or the name in lower case if there is none. -/
def ofText (text : String) : Except String Strategy :=
  let lower := text.map Char.toLower
  match spellings.lookup lower with
  | some s => .ok s
  | none => .error lower

end Strategy

/-- Why items cannot be split. -/
inductive Fault where
  | duplicateDevice (id : DeviceId)
  | noDevices (items : Nat)
  | invalidCapacity (id : DeviceId) (value : Float)
  | noCapacity (total : Float)
  | capExceeded (items cap devices : Nat)

section Runs

variable {τ : Type}

/-- Consecutive runs of the given lengths. -/
def runs : (lengths : List Nat) → List τ → List (List τ)
  | [], _ => []
  | n :: rest, items => items.take n :: runs rest (items.drop n)

/-- Hands runs of the items to the devices. -/
def assign (devices : List DeviceId) (counts : List Nat) (items : List τ) :
    Table DeviceId (List τ) :=
  .ofList (devices.zip (runs counts items))

/-- Without devices there must be no items. -/
def withoutDevices (items : List τ) : Except Fault (Table DeviceId (List τ)) :=
  if items.isEmpty then .ok .empty else .error (.noDevices items.length)

end Runs

/-- The counts under an optional cap; refused when there is no room for all items in the word that holds
the room. -/
def capped (cap : Option Nat) (holdings : List Holding) : Except Fault (List Nat) :=
  match cap with
  | none => .ok (holdings.map (·.count))
  | some cap =>
    if roomInWord cap (openCount holdings) < itemCount holdings then
      .error (.capExceeded (itemCount holdings) cap (openCount holdings))
    else .ok ((applyCap cap holdings).map (·.count))

/-- The first id that has occurred before. -/
def firstDuplicate? : (ids : List DeviceId) → (seen : List DeviceId) → Option DeviceId
  | [], _ => none
  | id :: rest, seen => if id ∈ seen then some id else firstDuplicate? rest (id :: seen)

/-- Equal counts for `devices` devices; the first ones take the remainder. -/
def uniformCounts (devices items : Nat) : List Nat :=
  (List.range devices).map fun i => items / devices + if i < items % devices then 1 else 0

/-- Splits items evenly, in the given order of the devices. -/
def uniformly {τ : Type} (cap : Option Nat) (devices : List DeviceId) (items : List τ) :
    Except Fault (Table DeviceId (List τ)) :=
  match firstDuplicate? devices [] with
  | some id => .error (.duplicateDevice id)
  | none =>
    if devices.isEmpty then withoutDevices items
    else do
      let holdings := (uniformCounts devices.length items.length).map (⟨·, true⟩)
      let counts ← capped cap holdings
      .ok (assign devices counts items)

section Formula

variable {α : Type} [Scalar α]

def totalCapacity (capacities : List α) : α :=
  capacities.foldl (· + ·) (-ofNat 0)

/-- The share of one device, rounded down. -/
def share (items : Nat) (capacity total : α) : Nat :=
  floor (ofNat items * capacity / total)

/-- The shares in order, none more than what is left after `assigned` items. -/
def shares (items : Nat) (total : α) : List α → (assigned : Nat) → List Nat
  | [], _ => []
  | capacity :: rest, assigned =>
    let n := min (share items capacity total) (items - assigned)
    n :: shares items total rest (assigned + n)

/-- The position of the first of the largest capacities. -/
def heaviest : List α → Nat
  | [] => 0
  | capacity :: rest =>
    let step := fun (best : Nat × α) (entry : α × Nat) =>
      if less best.2 entry.1 then (entry.2, entry.1) else best
    ((rest.zipIdx 1).foldl step (0, capacity)).1

/-- How many items each device gets: its share, and the remainder for the heaviest. -/
def capacityCounts (items : Nat) (capacities : List α) : List Nat :=
  let counts := shares items (totalCapacity capacities) capacities 0
  counts.modify (heaviest capacities) (· + (items - Number.total counts))

end Formula

/-- Splits items in proportion to the capacities, in the order of the ids. -/
def byCapacity {τ : Type} (cap : Option Nat) (capacities : Table DeviceId Float)
    (items : List τ) : Except Fault (Table DeviceId (List τ)) :=
  match capacities.entries.find? fun e => !e.2.isFinite || e.2 < 0 with
  | some (id, value) => .error (.invalidCapacity id value)
  | none =>
    if capacities.entries.isEmpty then withoutDevices items
    else
      let weights := capacities.values
      let total := totalCapacity weights
      if total ≤ 0 then .error (.noCapacity total)
      else do
        let holdings := (capacityCounts items.length weights).zipWith
          (fun count weight => ⟨count, 0 < weight⟩) weights
        let counts ← capped cap holdings
        .ok (assign capacities.keys counts items)

theorem length_runs {τ : Type} (lengths : List Nat) (items : List τ) :
    (runs lengths items).length = lengths.length := by
  induction lengths generalizing items with
  | nil => rfl
  | cons n rest ih => simp [runs, ih]

/-- Runs that are long enough together hold every item once, in order. -/
theorem flatten_runs {τ : Type} (lengths : List Nat) (items : List τ)
    (h : items.length ≤ Number.total lengths) : (runs lengths items).flatten = items := by
  induction lengths generalizing items with
  | nil => simpa [runs] using h
  | cons n rest ih =>
    rw [runs, List.flatten_cons, ih]
    · exact List.take_append_drop n items
    · rw [List.length_drop]
      rw [Number.total_cons] at h
      omega

end GpuCluster.Distribution
