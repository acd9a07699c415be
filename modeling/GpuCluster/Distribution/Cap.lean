import GpuCluster.Number.Total

/-!
# Caps on counts

A cap limits how many items a device may hold. What is above the cap moves to the open devices that
have room, one item to each in turn, until nothing is left over.
-/

namespace GpuCluster.Distribution

/-- How many items a device holds, and whether it may receive more. -/
structure Holding where
  count : Nat
  isOpen : Bool
  deriving DecidableEq, Repr

def openCount (holdings : List Holding) : Nat := holdings.countP (·.isOpen)

/-- The room of a number of devices under a cap, as far as a word holds the product. -/
def roomInWord (cap devices : Nat) : Nat := devices * cap % UInt64.size

def itemCount (holdings : List Holding) : Nat :=
  Number.total (holdings.map (·.count))

/-- Items above the cap. -/
def excess (cap : Nat) (holdings : List Holding) : Nat :=
  Number.total (holdings.map fun h => h.count - cap)

def cutOff (cap : Nat) (holdings : List Holding) : List Holding :=
  holdings.map fun h => { h with count := min h.count cap }

/-- Hands one item to each open device with room, in order, while there are items to hand out. -/
def handOut (cap : Nat) : (items : Nat) → List Holding → List Holding × Nat
  | items, [] => ([], items)
  | 0, holdings => (holdings, 0)
  | items + 1, h :: rest =>
    if h.isOpen && h.count < cap then
      let (rest, left) := handOut cap items rest
      ({ h with count := h.count + 1 } :: rest, left)
    else
      let (rest, left) := handOut cap (items + 1) rest
      (h :: rest, left)

/-- Hands items out in rounds, no more than `rounds` of them. -/
def refill (cap : Nat) : (rounds : Nat) → (items : Nat) → List Holding → List Holding
  | 0, _, holdings => holdings
  | _, 0, holdings => holdings
  | rounds + 1, items, holdings =>
    let (holdings, left) := handOut cap items holdings
    refill cap rounds left holdings

/-- The holdings under a cap; each round hands out at least one item, so that rounds suffice. -/
def applyCap (cap : Nat) (holdings : List Holding) : List Holding :=
  refill cap (excess cap holdings) (excess cap holdings) (cutOff cap holdings)

end GpuCluster.Distribution
