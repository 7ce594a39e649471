import GuestDisks.Document.Entry
import GuestDisks.Slot.Bus

/-!
# Slot tables

The table of one slot in a document's map `disks`. It asks for a device by a sub-table named for
the device (`Block`), or for leaving the slot as it is by the key `ignore`. More than one of these
can be written but not honoured, so a slot table keeps them all. The slot tables of the four buses
stand in four maps from slot names (`BusTables`).
-/

namespace GuestDisks

open Data Toml

/-- The sub-table of a managed disk. -/
structure DiskBlock where
  storage : String := ""
  size : String := ""
  format : String := ""
  settings : Settings := {}
  unknown : Unknowns := {}
  deriving BEq

/-- The sub-table of a host disk. -/
structure HostDiskBlock where
  file : String := ""
  settings : Settings := {}
  unknown : Unknowns := {}
  deriving BEq

/-- The sub-table of a CD drive. -/
structure CdromBlock where
  iso : String := ""
  passthrough : Bool := false
  unknown : Unknowns := {}
  deriving BEq

/-- The sub-table of a cloud-init drive. -/
structure CloudInitBlock where
  storage : String := ""
  unknown : Unknowns := {}
  deriving BEq

/-- The table of a slot. -/
structure SlotTable where
  ignore : Bool := false
  disk : Option DiskBlock := none
  passthrough : Option HostDiskBlock := none
  cdrom : Option CdromBlock := none
  cloudInit : Option CloudInitBlock := none
  unknown : Unknowns := {}
  deriving BEq

/-- The slot tables of all buses, under the names of their slots. -/
structure BusTables where
  ide : KeyMap SlotTable := {}
  sata : KeyMap SlotTable := {}
  scsi : KeyMap SlotTable := {}
  virtio : KeyMap SlotTable := {}
  deriving BEq

namespace DiskBlock

def ownFields : List (RecordField Value) :=
  [.may "storage" text, .may "size" text, .may "format" text]

/-- The block's own fields are read first, then the settings; what is left over is unknown. -/
def read : Reader Value DiskBlock := fun v => do
  let ms ← splitRecord "struct DiskBlock" ownFields (shape v)
  let rest := ms.without (ownFields.map (·.key))
  return { storage := ← ms.orElse "storage" text ""
           size := ← ms.orElse "size" text ""
           format := ← ms.orElse "format" text ""
           settings := ← Settings.ofRest rest
           unknown := ← Unknowns.ofRest (rest.without Settings.keys) }

def table (b : DiskBlock) : Table :=
  .ofEntries (setEntries [("storage", .text b.storage), ("size", .text b.size),
    ("format", .text b.format)] ++ b.settings.entries) ++ b.unknown.table

end DiskBlock

namespace HostDiskBlock

def ownFields : List (RecordField Value) := [.may "file" text]

def read : Reader Value HostDiskBlock := fun v => do
  let ms ← splitRecord "struct PassthroughBlock" ownFields (shape v)
  let rest := ms.without (ownFields.map (·.key))
  return { file := ← ms.orElse "file" text ""
           settings := ← Settings.ofRest rest
           unknown := ← Unknowns.ofRest (rest.without Settings.keys) }

def table (b : HostDiskBlock) : Table :=
  .ofEntries (setEntries [("file", .text b.file)] ++ b.settings.entries) ++ b.unknown.table

end HostDiskBlock

namespace CdromBlock

def ownFields : List (RecordField Value) := [.may "iso" text, .may "passthrough" boolean]

def read : Reader Value CdromBlock := fun v => do
  let ms ← splitRecord "struct CdRomBlock" ownFields (shape v)
  return { iso := ← ms.orElse "iso" text ""
           passthrough := ← ms.orElse "passthrough" boolean false
           unknown := ← Unknowns.ofRest (ms.without (ownFields.map (·.key))) }

def table (b : CdromBlock) : Table :=
  .ofEntries (setEntries [("iso", .text b.iso), ("passthrough", .boolean b.passthrough)]) ++
    b.unknown.table

end CdromBlock

namespace CloudInitBlock

def ownFields : List (RecordField Value) := [.may "storage" text]

def read : Reader Value CloudInitBlock := fun v => do
  let ms ← splitRecord "struct CloudInitBlock" ownFields (shape v)
  return { storage := ← ms.orElse "storage" text ""
           unknown := ← Unknowns.ofRest (ms.without (ownFields.map (·.key))) }

def table (b : CloudInitBlock) : Table :=
  .ofEntries (setEntries [("storage", .text b.storage)]) ++ b.unknown.table

end CloudInitBlock

/-- The entry of a sub-table that may be absent. -/
def subTable {β : Type} (key : String) (table : β → Table) (b : Option β) : Table :=
  b.toList.map fun b => (key, .table (table b))

namespace SlotTable

instance : Inhabited SlotTable := ⟨{}⟩

def ownFields : List (RecordField Value) :=
  [.may "ignore" boolean, .may "disk" (optional DiskBlock.read),
    .may "passthrough" (optional HostDiskBlock.read), .may "cdrom" (optional CdromBlock.read),
    .may "cloudinit" (optional CloudInitBlock.read)]

/-- All sub-tables given are read, also where they exclude each other. -/
def read : Reader Value SlotTable := fun v => do
  let ms ← splitRecord "struct SlotBlock" ownFields (shape v)
  return { ignore := ← ms.orElse "ignore" boolean false
           disk := ← ms.orElse "disk" (optional DiskBlock.read) none
           passthrough := ← ms.orElse "passthrough" (optional HostDiskBlock.read) none
           cdrom := ← ms.orElse "cdrom" (optional CdromBlock.read) none
           cloudInit := ← ms.orElse "cloudinit" (optional CloudInitBlock.read) none
           unknown := ← Unknowns.ofRest (ms.without (ownFields.map (·.key))) }

def table (t : SlotTable) : Table :=
  .ofEntries (setEntries [("ignore", .boolean t.ignore)]) ++
    subTable "disk" DiskBlock.table t.disk ++
    subTable "passthrough" HostDiskBlock.table t.passthrough ++
    subTable "cdrom" CdromBlock.table t.cdrom ++
    subTable "cloudinit" CloudInitBlock.table t.cloudInit ++ t.unknown.table

end SlotTable

namespace BusTables

/-- The slot tables of a bus. -/
def onBus (t : BusTables) : Bus → KeyMap SlotTable
  | .ide => t.ide
  | .sata => t.sata
  | .scsi => t.scsi
  | .virtio => t.virtio

/-- The slot tables that are given bus by bus. -/
def ofBuses (f : Bus → KeyMap SlotTable) : BusTables := ⟨f .ide, f .sata, f .scsi, f .virtio⟩

/-- The map of one bus. -/
def readBus : Reader Value (KeyMap SlotTable) := fun v =>
  match shape v with
  | .map ms _ => do
    let es ← ms.mapM fun m => do return (m.1, ← SlotTable.read m.2)
    return .ofList es
  | s => .error (s.mismatch "a map")

/-- One map for each bus, under the bus's label. -/
def fields : List (RecordField Value) := Bus.all.map fun bus => .may bus.label readBus

def read : Reader Value BusTables := fun v => do
  let ms ← record "struct ExpandedDisks" .ignored fields (shape v)
  return { ide := ← ms.orElse Bus.ide.label readBus {}
           sata := ← ms.orElse Bus.sata.label readBus {}
           scsi := ← ms.orElse Bus.scsi.label readBus {}
           virtio := ← ms.orElse Bus.virtio.label readBus {} }

/-- All four maps are written, also empty ones. -/
def table (t : BusTables) : Table :=
  Bus.all.map fun bus =>
    (bus.label, .table ((t.onBus bus).entries.map fun e => (e.1, .table e.2.table)))

end BusTables

end GuestDisks
