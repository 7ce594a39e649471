import GuestDisks.Slot.Bus
import GuestDisks.Number.Decimal

/-!
# Slots

A slot is an attachment point on a bus. The 57 slots have an order, by bus and then by index, and
a place in it (`Slot.ordinal`); every output that goes through slots follows it.
-/

namespace GuestDisks

/-- An attachment point on a bus. -/
structure Slot where
  bus : Bus
  index : Nat
  inRange : index < bus.slotCount
  deriving DecidableEq

/-- The number of slots of all buses. -/
def slotCount : Nat := 57

namespace Slot

/-- The place of a slot in the order of all slots. -/
def ordinal (s : Slot) : Nat := s.bus.firstOrdinal + s.index

/-- Every slot has its place below the number of slots. -/
theorem ordinal_lt (s : Slot) : s.ordinal < slotCount := by
  obtain ⟨bus, index, h⟩ := s
  cases bus <;> simp only [ordinal, Bus.firstOrdinal, Bus.slotCount, slotCount] at h ⊢ <;> omega

/-- The slot of a bus with an index, if the bus has it. -/
def ofIndex? (bus : Bus) (index : Nat) : Option Slot :=
  if h : index < bus.slotCount then some ⟨bus, index, h⟩ else none

/-- The slot at a place: on the last bus that begins there or before, if that bus reaches so
far. -/
def ofOrdinal? (n : Nat) : Option Slot := do
  let bus ← Bus.all.reverse.find? fun b => b.firstOrdinal ≤ n
  ofIndex? bus (n - bus.firstOrdinal)

/-- The slots of a bus, by index. -/
def onBus (bus : Bus) : List Slot := (List.range bus.slotCount).filterMap (ofIndex? bus)

/-- Every slot, in order. -/
def all : List Slot := Bus.all.flatMap onBus

/-- The name of a slot: the label of its bus and its index. -/
def name (s : Slot) : String := s.bus.label ++ Decimal.ofNat s.index

/-- Slots are ordered by their places. -/
instance : Ord Slot := ⟨fun a b => compare a.ordinal b.ordinal⟩

end Slot

end GuestDisks
