import GuestDisks.Request.Fields
import GuestDisks.Toml.Kept

/-!
# Entries of the disk list

One entry of a document's list `disk`: the slot and the kind of device, still unchecked, the
fields that describe the device, and the keys that the list does not know. An entry shows only
what is set; the unknown keys follow the known ones.
-/

namespace GuestDisks

open Data Toml

/-- The keys that a table does not know, with their values. -/
abbrev Unknowns := KeyMap Value

namespace Unknowns

/-- Collects what the known parts of a table leave over, the first value that cannot be kept being
a fault. -/
def ofRest (ms : Members Value) : Except Fault Unknowns := do
  let es ← ms.mapM fun m => do return (m.1, ← m.2.kept true)
  return .ofList es

/-- The entries as they are written. -/
def table (u : Unknowns) : Table := u.entries.map fun e => (e.1, e.2.grouped)

end Unknowns

/-- The settings' keys. -/
def Settings.keys : List String := (Settings.fields (α := Value)).map (·.key)

/-- An entry of the disk list. -/
structure Entry where
  slot : String
  kind : String
  passthrough : Bool := false
  fields : Fields
  unknown : Unknowns := {}
  deriving BEq

namespace Entry

/-- The keys of an entry's own fields, beside the settings. -/
def ownFields : List (RecordField Value) :=
  [.need "slot" text, .need "type" text, .may "passthrough" boolean, .may "storage" text,
    .may "size" text, .may "format" text, .may "iso" text, .may "disk_file" text]

/-- The entry's own fields are read first, then the settings; what is left over is unknown. -/
def read : Reader Value Entry := fun v => do
  let ms ← splitRecord "struct DiskEntry" ownFields (shape v)
  let rest := ms.without (ownFields.map (·.key))
  return { slot := ← ms.required "slot" text
           kind := ← ms.required "type" text
           passthrough := ← ms.orElse "passthrough" boolean false
           fields := {
             storage := ← ms.orElse "storage" text ""
             size := ← ms.orElse "size" text ""
             format := ← ms.orElse "format" text ""
             iso := ← ms.orElse "iso" text ""
             diskFile := ← ms.orElse "disk_file" text ""
             settings := ← Settings.ofRest rest }
           unknown := ← Unknowns.ofRest (rest.without Settings.keys) }

/-- The slot and the kind are always written. -/
def table (e : Entry) : Table :=
  .ofEntries ([("slot", .text e.slot), ("type", .text e.kind)] ++
    setEntries [("passthrough", .boolean e.passthrough), ("storage", .text e.fields.storage),
      ("size", .text e.fields.size), ("format", .text e.fields.format),
      ("iso", .text e.fields.iso), ("disk_file", .text e.fields.diskFile)] ++
    e.fields.settings.entries) ++ e.unknown.table

end Entry

end GuestDisks
