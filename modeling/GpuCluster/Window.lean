/-!
# Windows over the past

A window keeps the latest entries, at most as many as its capacity. Pushing into a full window drops
the oldest entry.
-/

namespace GpuCluster

structure Window (α : Type) where
  /-- One less than the number of entries that fit, so that at least one does. -/
  spare : Nat
  /-- From the oldest to the newest. -/
  toList : List α
  length_le : toList.length ≤ spare + 1

namespace Window

variable {α : Type}

/-- An empty window; a capacity of zero counts as one. -/
def ofCapacity (capacity : Nat) : Window α :=
  ⟨capacity - 1, [], Nat.zero_le _⟩

def capacity (w : Window α) : Nat := w.spare + 1

def isFull (w : Window α) : Bool :=
  w.toList.length = w.capacity

def push (w : Window α) (a : α) : Window α where
  spare := w.spare
  toList := if w.isFull then w.toList.tail ++ [a] else w.toList ++ [a]
  length_le := by
    have hle := w.length_le
    by_cases h : w.toList.length = w.spare + 1
    · simp [isFull, capacity, h]
    · simp only [isFull, capacity, h, decide_false, Bool.false_eq_true, if_false,
        List.length_append, List.length_singleton]
      omega

/-- The entry that pushing would drop. -/
def evicted? (w : Window α) : Option α :=
  if w.isFull then w.toList.head? else none

def latest? (w : Window α) : Option α := w.toList.getLast?

def size (w : Window α) : Nat := w.toList.length

def isEmpty (w : Window α) : Bool := w.toList.isEmpty

def clear (w : Window α) : Window α :=
  ⟨w.spare, [], Nat.zero_le _⟩

theorem capacity_ofCapacity (n : Nat) : (ofCapacity n : Window α).capacity = max 1 n := by
  simp only [ofCapacity, capacity]
  omega

theorem capacity_push (w : Window α) (a : α) : (w.push a).capacity = w.capacity := rfl

theorem latest?_push (w : Window α) (a : α) : (w.push a).latest? = some a := by
  simp only [latest?, push]
  split <;> simp

/-- A window over a list pushed in order holds its last entries. -/
theorem toList_push (w : Window α) (a : α) :
    (w.push a).toList = (w.toList ++ [a]).drop (w.toList.length + 1 - w.capacity) := by
  have hle := w.length_le
  simp only [push, isFull, decide_eq_true_eq]
  split <;> rename_i h
  · have hne : w.toList ≠ [] := by
      intro hnil
      simp [hnil, capacity] at h
    have hsub : w.toList.length + 1 - w.capacity = 1 := by omega
    obtain ⟨b, rest, hb⟩ := List.exists_cons_of_ne_nil hne
    rw [hsub, hb]
    simp
  · have hsub : w.toList.length + 1 - w.capacity = 0 := by
      simp only [capacity] at h ⊢
      omega
    rw [hsub]
    simp

end Window

end GpuCluster
