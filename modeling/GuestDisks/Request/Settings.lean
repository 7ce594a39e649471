import GuestDisks.Device.Json
import GuestDisks.Json.Basic

/-!
# Settings

The options of a disk as users write them: names and texts still unchecked, rates any 64-bit
integer. A setting is absent when it has the value that an absent key stands for, so documents
only show those that differ (`entries`); `populated` lists the keys of what a user supplied.
-/

namespace GuestDisks

/-- The options of a disk as users write them. -/
structure Settings where
  cache : String := ""
  engine : String := ""
  discard : Bool := false
  replicate : Bool := false
  /-- Backups include the disk unless this says otherwise. -/
  backup : Option Bool := none
  serial : String := ""
  wwn : String := ""
  emulateSsd : Bool := false
  ioThread : Bool := false
  readOnly : Bool := false
  limits : FlatLimits Int := .unlimited 0
  deriving DecidableEq, BEq

namespace Settings

open Data

instance : Inhabited Settings := ⟨{}⟩

/-- The settings with other limits. -/
def setLimits (s : Settings) (limits : FlatLimits UInt32) : Settings :=
  { s with limits := limits.widened }

/-- The entry of the backup setting, which also shows when it is false. -/
def backupEntry (s : Settings) : List (String × Scalar) :=
  s.backup.toList.map fun b => ("backup", .boolean b)

/-- The entries that documents show, in their order. -/
def entries (s : Settings) : List (String × Scalar) :=
  setEntries [("cache", .text s.cache), ("asyncio", .text s.engine),
    ("discard", .boolean s.discard), ("replicate", .boolean s.replicate)] ++
  s.backupEntry ++
  setEntries [("serial", .text s.serial), ("wwn", .text s.wwn),
    ("emulatessd", .boolean s.emulateSsd), ("iothread", .boolean s.ioThread),
    ("readonly", .boolean s.readOnly)] ++
  setEntries s.limits.entries

/-- The text settings with their keys. -/
def texts (s : Settings) : List (String × String) :=
  [("cache", s.cache), ("asyncio", s.engine), ("serial", s.serial), ("wwn", s.wwn)]

/-- The keys of the flags, with whether the user supplied them. -/
def flags (s : Settings) : List (String × Bool) :=
  [("discard", s.discard), ("replicate", s.replicate), ("backup", s.backup.isSome),
    ("emulatessd", s.emulateSsd), ("iothread", s.ioThread), ("readonly", s.readOnly)]

/-- The keys of the settings that the user supplied: texts, flags, throughputs, rates. -/
def populated (s : Settings) : List String :=
  ((s.texts.filter fun e => e.2 != "").map (·.1)) ++
  ((s.flags.filter fun e => e.2).map (·.1)) ++
  ((s.limits.throughputs.filter fun e => !e.2.isZero).map (·.1)) ++
  ((s.limits.rates.filter fun e => e.2 != 0).map (·.1))

/-- The settings that ask for given options. -/
def ofOptions (o : DiskOptions) : Settings where
  cache := (o.cache.map CacheMode.label).getD ""
  engine := (o.engine.map IoEngine.label).getD ""
  discard := o.discard
  replicate := o.replicate
  backup := if o.backup then none else some false
  serial := o.serial.getD ""
  wwn := o.wwn.getD ""
  emulateSsd := o.emulateSsd
  ioThread := o.ioThread
  readOnly := o.readOnly
  limits := o.limits.flat.widened

/-- Only settings that are set are written. -/
def json (s : Settings) : Json := .ofEntries s.entries

variable {α : Type} [Shaped α]

/-- The settings as fields of a record. -/
def fields : List (RecordField α) :=
  [.may "cache" text, .may "asyncio" text, .may "discard" boolean, .may "replicate" boolean,
    .may "backup" (optional boolean), .may "serial" text, .may "wwn" text,
    .may "emulatessd" boolean, .may "iothread" boolean, .may "readonly" boolean] ++
  FlatLimits.fields int64

/-- The settings among the members of a record. -/
def ofMembers (ms : Members α) : Except Fault Settings := do
  return { cache := ← ms.orElse "cache" text ""
           engine := ← ms.orElse "asyncio" text ""
           discard := ← ms.orElse "discard" boolean false
           replicate := ← ms.orElse "replicate" boolean false
           backup := ← ms.orElse "backup" (optional boolean) none
           serial := ← ms.orElse "serial" text ""
           wwn := ← ms.orElse "wwn" text ""
           emulateSsd := ← ms.orElse "emulatessd" boolean false
           ioThread := ← ms.orElse "iothread" boolean false
           readOnly := ← ms.orElse "readonly" boolean false
           limits := ← FlatLimits.ofMembers int64 0 ms }

/-- Settings that stand by themselves. -/
def read (surplus : Surplus) : Reader α Settings := fun v => do
  let ms ← record "struct SharedOptions" surplus fields (shape v)
  ofMembers ms

/-- Settings among the members that another record leaves to them. -/
def ofRest (ms : Members α) : Except Fault Settings := do
  survey fields readable [] ms
  ofMembers ms

end Settings

end GuestDisks
