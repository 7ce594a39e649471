import GuestDisks.Document.SlotTable
import GuestDisks.Number.Layout
import GuestDisks.Toml.Printer
import GuestDisks.Toml.Reader

/-!
# Documents

A document describes a guest's disks on one of two surfaces: the list `disk`, with an entry for
each device, or the map `disks`, with a table for each slot. It may leave both out, but not use
both. `Document.read` reads one from TOML text and `Document.write` writes it.
-/

namespace GuestDisks

open Data Toml

/-- The surface on which a document is written. -/
inductive Surface
  | list
  | expanded
  deriving DecidableEq

namespace Surface

def all : List Surface := [list, expanded]

def label : Surface → String
  | list => "list"
  | expanded => "expanded"

/-- A text that names no surface. -/
structure Unknown where
  name : String

def Unknown.message (u : Unknown) : String :=
  "unknown surface " ++ Text.quote u.name ++ ", expected \"list\" or \"expanded\""

/-- The surface of a name. -/
def ofName (name : String) : Except Unknown Surface :=
  match ofLabel? label all name with
  | some s => .ok s
  | none => .error ⟨name⟩

end Surface

/-- A description of a guest's disks. -/
structure Document where
  disk : List Entry := []
  disks : Option BusTables := none
  deriving BEq

/-- Why a text is no document. -/
inductive Unreadable
  /-- The text is not TOML. -/
  | notToml
  /-- The data is not that of a document. -/
  | unfit (fault : Fault)
  /-- Both surfaces are used. -/
  | conflictingRoots

namespace Document

/-- How messages about documents show doubles. -/
def reals : Layout := { Toml.floats with nan := "NaN", signsNaN := false }

end Document

/-- The text of a fault in a document. -/
def Unreadable.message : Unreadable → String
  | .notToml => "the text is not TOML"
  | .unfit fault => fault.message Document.reals
  | .conflictingRoots => "disk and disks cannot both be given"

namespace Document

/-- The list of entries. -/
def readList : Reader Value (List Entry) := fun v =>
  match shape v with
  | .sequence items _ => items.mapM Entry.read
  | s => .error (s.mismatch "a sequence")

/-- A document's data; both surfaces may be used in it. -/
def ofTable (t : Table) : Except Fault Document := do
  let ms ← record "struct StorageInput" .ignored
    [.may "disk" readList, .may "disks" (optional BusTables.read)] (.map t true)
  return { disk := ← ms.orElse "disk" readList []
           disks := ← ms.orElse "disks" (optional BusTables.read) none }

/-- Refuses a document that uses both surfaces. -/
def checked (d : Document) : Except Unreadable Document :=
  if !d.disk.isEmpty && d.disks.isSome then .error .conflictingRoots else .ok d

/-- The document of a text. Where the data does not fit, a text with values that are not sound
counts as no TOML at all. -/
def read (s : String) : Except Unreadable Document :=
  match Toml.readDocument s with
  | none => .error .notToml
  | some t =>
    match ofTable t with
    | .ok d => d.checked
    | .error fault => if Table.isSound t then .error (.unfit fault) else .error .notToml

/-- The data of a document. An empty list is left out. -/
def table (d : Document) : Table :=
  (if d.disk.isEmpty then [] else [("disk", .array (d.disk.map fun e => .table e.table))]) ++
    subTable "disks" BusTables.table d.disks

/-- The text of a document. -/
def write (d : Document) : String := Toml.write d.table

/-- The surface that a document uses: the list if it has entries, else the map. -/
def surface (d : Document) : Surface := if d.disk.isEmpty then .expanded else .list

end Document

end GuestDisks
