import GuestDisks.Assignment
import GuestDisks.Document.Event

/-!
# The disk list

Reading and writing the list `disk`. Entries are taken in order, and each is either carried out or
reported; a slot that no entry names is deleted. Written lists have one entry for each slot that
holds a device, in slot order. The list has no way to leave a slot as it is.
-/

namespace GuestDisks

/-- Warns about keys that are not known at a slot. -/
def Assignment.warnUnknown (a : Assignment) (s : Slot) (keys : List String) : Assignment :=
  keys.foldl (fun a key => a.reportWarning s.name (.unknownField key)) a

namespace Entry

/-- The place of an entry whose slot cannot be told. -/
def place (position : Nat) : String := "disk[" ++ Decimal.ofNat position ++ "]"

/-- Takes the entry at a position. -/
def assign (a : Assignment) (position : Nat) (e : Entry) : Assignment × List Event :=
  match Slot.ofName e.slot with
  | .error fault => (a.reportError (place position) (.unknownSlot e.slot fault), [])
  | .ok slot =>
    let a := a.warnUnknown slot e.unknown.keys
    match Kind.ofName e.kind with
    | .error p => (a.reject slot p, [])
    | .ok kind =>
      let (a, accepted) := a.add ⟨slot, kind, e.passthrough, e.fields⟩
      (a, [.entry slot kind accepted])

/-- The entry that asks for a variant; none asks for a marker. -/
def ofVariant (slot : Slot) : Variant → Option Entry
  | .disk v =>
    some { slot := slot.name, kind := Kind.disk.label, fields := .ofVolume v }
  | .passthrough d =>
    some { slot := slot.name, kind := Kind.disk.label, passthrough := true,
           fields := .ofHostDisk d }
  | .cdrom m =>
    some { slot := slot.name, kind := Kind.cdrom.label, passthrough := m == .passthrough,
           fields := .ofMedium m }
  | .cloudInit storage =>
    some { slot := slot.name, kind := Kind.cloudInit.label, fields := { storage } }
  | .delete | .unchanged => none

end Entry

namespace DiskList

/-- Takes entries one after another, the first at a given position. -/
def assign : Assignment → Nat → List Entry → Assignment × List Event
  | a, _, [] => (a, [])
  | a, position, e :: es =>
    let (a, first) := e.assign a position
    let (a, rest) := assign a (position + 1) es
    (a, first ++ rest)

/-- Reads a list of entries. -/
def decode (es : List Entry) : Assignment × List Event := assign .empty 0 es

/-- The entries of a configuration. -/
def encode (c : Configuration) : List Entry :=
  c.entries.filterMap fun e => Entry.ofVariant e.1 e.2

end DiskList

end GuestDisks
