import GuestDisks.Document.DiskList

/-!
# The slot tables of a document

Reading and writing the map `disks`. A table belongs to the slot that its key names, which must be
on the bus in whose map the table stands. Tables are taken in slot order; a slot without a table,
or with an empty one, is deleted. Written maps have a table for every slot.
-/

namespace GuestDisks

open Data

/-- The device that a sub-table asks for. -/
structure BlockRequest where
  block : Block
  passthrough : Bool
  fields : Fields
  unknown : Unknowns

namespace SlotTable

/-- The devices that a table asks for. -/
def devices (t : SlotTable) : List BlockRequest :=
  (t.disk.toList.map fun b =>
    { block := .disk, passthrough := false, unknown := b.unknown,
      fields := { storage := b.storage, size := b.size, format := b.format,
                  settings := b.settings } }) ++
  (t.passthrough.toList.map fun b =>
    { block := .passthrough, passthrough := true, unknown := b.unknown,
      fields := { diskFile := b.file, settings := b.settings } }) ++
  (t.cdrom.toList.map fun b =>
    { block := .cdrom, passthrough := b.passthrough, unknown := b.unknown,
      fields := { iso := b.iso } }) ++
  (t.cloudInit.toList.map fun b =>
    { block := .cloudInit, passthrough := false, unknown := b.unknown,
      fields := { storage := b.storage } })

/-- Takes the table of a slot. -/
def assign (a : Assignment) (slot : Slot) (t : SlotTable) : Assignment × Outcome :=
  let a := a.warnUnknown slot t.unknown.keys
  match t.devices with
  | [] => if t.ignore then ((a.leaveUnchanged slot).1, .unchanged) else (a, .delete)
  | [d] =>
    if t.ignore then (a.reject slot .conflictingBlocks, .rejected)
    else
      let a := a.warnUnknown slot (d.unknown.keys.map fun key => d.block.label ++ "." ++ key)
      let (a, accepted) := a.add ⟨slot, d.block.kind, d.passthrough, d.fields⟩
      (a, if accepted then .device d.block else .rejected)
  | _ :: _ :: _ => (a.reject slot .conflictingBlocks, .rejected)

/-- The table that asks for a variant; the markers both have an empty one. -/
def ofVariant : Variant → SlotTable
  | .disk v =>
    let f := Fields.ofVolume v
    { disk := some { storage := f.storage, size := f.size, format := f.format,
                     settings := f.settings } }
  | .passthrough d => { passthrough := some { file := d.file, settings := .ofOptions d.options } }
  | .cdrom m =>
    { cdrom := some { iso := (Fields.ofMedium m).iso, passthrough := m == .passthrough } }
  | .cloudInit storage => { cloudInit := some { storage } }
  | .delete | .unchanged => {}

end SlotTable

namespace BusTables

/-- The place of a table whose slot cannot be told. -/
def place (bus : Bus) (key : String) : String := "disks." ++ bus.label ++ "." ++ key

/-- The tables of all buses, each with its bus and key. -/
def tables (t : BusTables) : List (Bus × String × SlotTable) :=
  Bus.all.flatMap fun bus => (t.onBus bus).entries.map fun e => (bus, e.1, e.2)

/-- The tables whose keys name slots of their bus, with these slots. -/
def located (t : BusTables) : List (Slot × SlotTable) :=
  t.tables.filterMap fun e => (Slot.ofNameOn e.1 e.2.1).toOption.map fun s => (s, e.2.2)

/-- The problems of the keys that do not. -/
def misplaced (t : BusTables) : Report :=
  t.tables.flatMap fun e =>
    match Slot.ofNameOn e.1 e.2.1 with
    | .ok _ => []
    | .error fault => Report.ofFindings (place e.1 e.2.1) [.error (.unknownSlot e.2.1 fault)]

/-- The located tables in slot order. No two name one slot, as a slot has one name. -/
def inSlotOrder (t : BusTables) : List (Slot × SlotTable) :=
  Slot.all.filterMap fun s => (t.located.lookup s).map fun table => (s, table)

/-- Takes tables one after another. -/
def assign : Assignment → List (Slot × SlotTable) → Assignment × List Event
  | a, [] => (a, [])
  | a, (slot, table) :: ts =>
    let (a, outcome) := table.assign a slot
    let (a, rest) := assign a ts
    (a, .slotTable slot outcome :: rest)

/-- Reads the slot tables. -/
def decode (t : BusTables) : Assignment × List Event :=
  assign { Assignment.empty with report := t.misplaced } t.inSlotOrder

/-- The slot tables of a configuration. -/
def encode (c : Configuration) : BusTables :=
  .ofBuses fun bus => .ofList <| c.entries.filterMap fun e =>
    if e.1.bus = bus then some (e.1.name, SlotTable.ofVariant e.2) else none

end BusTables

end GuestDisks
