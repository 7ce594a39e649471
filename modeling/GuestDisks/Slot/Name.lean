import GuestDisks.Slot.Basic
import GuestDisks.Text.Quoted

/-!
# Reading slot names

A slot name is the label of a bus followed by a decimal index without leading zeros that the bus
has. `Slot.ofName` reads one, or says what is wrong with it (`SlotFault`).
-/

namespace GuestDisks

/-- Why a name or an index stands for no slot. -/
inductive SlotFault
  | unknownBus (name : String)
  | noIndex (name : String)
  | outOfRange (bus : Bus) (index : Nat)
  /-- A slot named where only those of another bus belong. -/
  | wrongBus (slot : Slot) (bus : Bus)
  deriving DecidableEq

/-- The text of a fault. -/
def SlotFault.message : SlotFault → String
  | .unknownBus name => Text.quote name ++ " does not start with a known bus prefix"
  | .noIndex name => Text.quote name ++ " does not end in a slot index"
  | .outOfRange bus index =>
    "slot index " ++ Decimal.ofNat index ++ " outside range of 0-" ++
      Decimal.ofNat (bus.slotCount - 1) ++ " on bus " ++ bus.label
  | .wrongBus slot bus => "slot " ++ slot.name ++ " does not belong to bus " ++ bus.label

namespace Slot

/-- The slot of a bus with an index. -/
def ofIndex (bus : Bus) (index : Nat) : Except SlotFault Slot :=
  match ofIndex? bus index with
  | some s => .ok s
  | none => .error (.outOfRange bus index)

/-- The bus whose label begins a name, and the rest of the name. No label begins another. -/
def busOf? (name : List Char) : Option (Bus × List Char) :=
  Bus.all.findSome? fun bus => (bus.label.toList.isPrefixOf? name).map fun rest => (bus, rest)

/-- Whether a text is a decimal numeral without leading zeros. -/
def isNumeral (cs : List Char) : Bool :=
  !cs.isEmpty && cs.all Decimal.isDigit && (cs.length == 1 || cs.head? != some '0')

/-- The slot of a name. An index beyond 255 is none at all. -/
def ofName (name : String) : Except SlotFault Slot :=
  match busOf? name.toList with
  | none => .error (.unknownBus name)
  | some (bus, digits) =>
    if isNumeral digits ∧ Decimal.value digits < 256 then ofIndex bus (Decimal.value digits)
    else .error (.noIndex name)

/-- The slot of a name among those of one bus. -/
def ofNameOn (bus : Bus) (name : String) : Except SlotFault Slot := do
  let s ← ofName name
  if s.bus = bus then return s else .error (.wrongBus s bus)

end Slot

end GuestDisks
