import GuestDisks.Request.Basic
import GuestDisks.Request.Check

/-!
# Building devices

A request becomes the variant it asks for (`Request.build`), or a list of all that is wrong with
it. Checks do not stop at the first problem: those of all fields are made, their findings come one
after another, and there is a variant if every check gave its value. Each field that the user
supplied is either used or named in a warning.
-/

namespace GuestDisks

/-- The outcome of checks: the value, if there is one, and all findings in order. -/
structure Checked (α : Type) where
  value : Option α
  findings : List Finding

namespace Checked

variable {α : Type}

/-- Outcomes combine: the value needs both values, and the findings follow each other. -/
instance : Applicative Checked where
  pure a := ⟨some a, []⟩
  seq f x :=
    let a := x ()
    ⟨f.value.bind fun g => a.value.map g, f.findings ++ a.findings⟩

/-- The outcome of one check. -/
def ofExcept : Except Problem α → Checked α
  | .ok a => ⟨some a, []⟩
  | .error p => ⟨none, [.error p]⟩

/-- The outcome of a problem that was found. -/
def problem (p : Problem) : Checked α := ⟨none, [.error p]⟩

/-- Warnings that stand in the way of nothing. -/
def warn (ns : List Notice) : Checked Unit := ⟨some (), ns.map .warning⟩

end Checked

namespace Request

open Checked

/-- A field that must not be empty. -/
def required (field value : String) : Checked String :=
  if value = "" then problem (.missingField field) else pure value

/-- Warns about fields that the device has no use for. -/
def ignored (r : Request) (fields : List String) : Checked Unit :=
  warn (fields.map fun field => .fieldIgnored field r.deviceName)

/-- A flag that only some buses support. On the others it is dropped with a warning. -/
def busFlag (r : Request) (field : String) (set supported : Bool) : Checked Bool :=
  if set && !supported then
    (fun _ => false) <$> warn [.unsupportedOnBus field r.slot.bus]
  else pure set

/-- A size, which must be given. -/
def size (raw : String) : Checked DiskSize :=
  if raw = "" then problem (.missingField "size") else ofExcept (Check.size raw)

/-- The options that the settings ask for. -/
def options (r : Request) : Checked DiskOptions :=
  let s := r.fields.settings
  let has := r.slot.bus.features
  DiskOptions.mk <$> ofExcept (Check.cache s.cache)
    <*> ofExcept (Check.engine s.engine)
    <*> pure s.discard
    <*> pure s.replicate
    <*> pure (s.backup.getD true)
    <*> ofExcept (Check.serial s.serial)
    <*> ofExcept (Check.wwn s.wwn)
    <*> r.busFlag "emulatessd" s.emulateSsd has.emulateSsd
    <*> r.busFlag "iothread" s.ioThread has.ioThread
    <*> r.busFlag "readonly" s.readOnly has.readOnly
    <*> ofExcept (Check.limits s.limits)

/-- A managed disk. -/
def volume (r : Request) : Checked Volume :=
  r.ignored (r.fields.populated.filter fun f => f == "iso" || f == "disk_file") *>
    (Volume.mk <$> required "storage" r.fields.storage
      <*> size r.fields.size
      <*> ofExcept (Check.format r.fields.format)
      <*> r.options)

/-- A host disk. -/
def hostDisk (r : Request) : Checked HostDisk :=
  r.ignored (r.fields.populated.filter (· != "disk_file")) *>
    (HostDisk.mk <$> required "disk_file" r.fields.diskFile <*> r.options)

/-- What a CD drive is to hold: an image, the host's drive, or nothing, but not both. -/
def medium (r : Request) : Checked Medium :=
  r.ignored (r.fields.populated.filter (· != "iso")) *>
    r.ignored r.fields.settings.populated *>
    (if r.fields.iso = "" then pure (if r.passthrough then .passthrough else .none)
      else if r.passthrough then problem (.conflictingFields "iso" "passthrough")
      else (fun p => .iso p.1 p.2) <$> ofExcept (Check.iso r.fields.iso))

/-- The storage pool of a cloud-init drive. -/
def cloudInit (r : Request) : Checked String :=
  (if r.slot.bus.accepts .cloudInit then pure ()
    else problem (.unsupportedOnBus Kind.cloudInit.label r.slot.bus)) *>
    r.ignored (r.fields.populated.filter (· != "storage")) *>
    r.ignored (if r.passthrough then ["passthrough"] else []) *>
    r.ignored r.fields.settings.populated *>
    required "storage" r.fields.storage

/-- The variant that a request asks for. -/
def build (r : Request) : Checked Variant :=
  match r.kind, r.passthrough with
  | .disk, false => .disk <$> r.volume
  | .disk, true => .passthrough <$> r.hostDisk
  | .cdrom, _ => .cdrom <$> r.medium
  | .cloudInit, _ => .cloudInit <$> r.cloudInit

end Request

end GuestDisks
