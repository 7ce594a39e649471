import GuestDisks.Device.Json
import GuestDisks.Slot.Name

/-!
# Configurations

A configuration says for every slot what it is to hold. It is total: a slot that nobody mentioned
holds `delete`. As JSON it is an object from slot names to variants, written with all slots in
order and read with any of them in any order; of two entries for a slot the later one counts.
-/

namespace GuestDisks

/-- What every slot is to hold. -/
structure Configuration where
  /-- The variants in the order of the slots. -/
  variants : Vector Variant slotCount
  deriving DecidableEq, BEq

namespace Configuration

/-- The configuration that deletes everything. -/
def empty : Configuration := ⟨.replicate slotCount .delete⟩

instance : Inhabited Configuration := ⟨empty⟩

/-- What a slot holds. -/
def get (c : Configuration) (s : Slot) : Variant := c.variants.get ⟨s.ordinal, s.ordinal_lt⟩

/-- Puts a variant into a slot. -/
def set (c : Configuration) (s : Slot) (v : Variant) : Configuration :=
  ⟨c.variants.set s.ordinal v s.ordinal_lt⟩

/-- Puts a variant into a slot and takes out what was there. -/
def replace (c : Configuration) (s : Slot) (v : Variant) : Variant × Configuration :=
  let (old, variants) := c.variants.swapAt s.ordinal v s.ordinal_lt
  (old, ⟨variants⟩)

/-- Every slot with what it holds, in order. -/
def entries (c : Configuration) : List (Slot × Variant) := Slot.all.zip c.variants.toList

/-- The slots that hold a device. -/
def devices (c : Configuration) : List (Slot × Variant) := c.entries.filter fun e => !e.2.isEmpty

/-- Whether some slot holds a cloud-init drive. -/
def hasCloudInit (c : Configuration) : Bool := c.variants.any Variant.isCloudInit

/-- The configuration that holds what is listed; the last mention of a slot counts. -/
def ofList (es : List (Slot × Variant)) : Configuration :=
  es.foldl (fun c e => c.set e.1 e.2) empty

/-- All slots are written, in order, each under its name. -/
def json (c : Configuration) : Json := .object (c.entries.map fun e => (e.1.name, e.2.json))

open Data

variable {α : Type} [Shaped α]

/-- One member of a configuration's object. -/
def readMember (m : String × α) : Except Fault (Slot × Variant) := do
  let s ← (Slot.ofName m.1).mapError fun f => .refused f.message
  return (s, ← Variant.read m.2)

/-- A slot that the object does not name is deleted; a key that names no slot is a fault. -/
def read : Reader α Configuration := fun v =>
  match shape v with
  | .map ms whole => do
    let es ← ms.mapM readMember
    ending whole
    return ofList es
  | s => .error (s.mismatch "a map")

end Configuration

end GuestDisks
