import PluginFlow.Run.Context

/-!
The most recent records of runs, oldest first. The oldest makes room for a new one.
-/

namespace PluginFlow

structure History where
  capacity : Nat
  records : List RunRecord := []
  deriving DecidableEq

namespace History

/-- An empty history; at least one record is kept. -/
def ofCapacity (capacity : Nat) : History := { capacity := max capacity 1 }

def recordBytes : Nat := 88

def largestAllocation : Nat := Nat.pow 2 63 - 1

/-- An empty history, which takes room for all its records at once. There is none when that room
cannot be addressed. -/
def ofCapacity? (capacity : Nat) : Option History :=
  if max capacity 1 * recordBytes ≤ largestAllocation then some (ofCapacity capacity) else none

def defaultCapacity : Nat := 50

instance : Inhabited History := ⟨ofCapacity defaultCapacity⟩

def push (h : History) (r : RunRecord) : History :=
  { h with records := h.records.drop (h.records.length + 1 - h.capacity) ++ [r] }

def last? (h : History) : Option RunRecord := h.records.getLast?

def size (h : History) : Nat := h.records.length

theorem capacity_push (h : History) (r : RunRecord) : (h.push r).capacity = h.capacity := rfl

end History
end PluginFlow
