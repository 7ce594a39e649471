import GuestDisks.Data.Record
import GuestDisks.Device.Variant
import GuestDisks.Json.Basic

/-!
# Devices as JSON

Each type of a device's description is written as an object with all its fields, and read from an
object or, unless it shares its object with others, from an array of its fields in order. A
variant's object tells by its key `type` which one it is; all that stands beside the tag is read
after it, wherever the tag stands.

Reading a record goes over it twice: `fields` lists what the members are tested against, and the
reader then looks up the members that passed.
-/

namespace GuestDisks

open Data

variable {α : Type} [Shaped α]

/-! ## Limits -/

namespace Throughput

def json (t : Throughput) : Json :=
  .object [("burst", .ofReal t.burst), ("concurrent", .ofReal t.concurrent)]

def read (surplus : Surplus) : Reader α Throughput := fun v => do
  let ms ← record "struct MbpsLimits" surplus
    [.may "burst" real, .may "concurrent" real] (shape v)
  return { burst := ← ms.orElse "burst" real .zero
           concurrent := ← ms.orElse "concurrent" real .zero }

end Throughput

namespace Rate

def json (r : Rate) : Json :=
  .object [("burst", .ofNat r.burst.toNat), ("burst_length", .ofNat r.burstLength.toNat),
    ("concurrent", .ofNat r.concurrent.toNat)]

def read (surplus : Surplus) : Reader α Rate := fun v => do
  let ms ← record "struct IopsLimits" surplus
    [.may "burst" uint32, .may "burst_length" uint32, .may "concurrent" uint32] (shape v)
  return { burst := ← ms.orElse "burst" uint32 0
           burstLength := ← ms.orElse "burst_length" uint32 0
           concurrent := ← ms.orElse "concurrent" uint32 0 }

end Rate

namespace DirectionLimits

def json (d : DirectionLimits) : Json := .object [("mbps", d.mbps.json), ("iops", d.iops.json)]

def read (surplus : Surplus) : Reader α DirectionLimits := fun v => do
  let ms ← record "struct DirectionLimits" surplus
    [.may "mbps" (Throughput.read surplus), .may "iops" (Rate.read surplus)] (shape v)
  return { mbps := ← ms.orElse "mbps" (Throughput.read surplus) {}
           iops := ← ms.orElse "iops" (Rate.read surplus) {} }

end DirectionLimits

namespace Limits

/-- All limits are written, also those that are zero. -/
def json (l : Limits) : Json := .object [("read", l.read.json), ("write", l.write.json)]

/-- Limits that are left out are zero. -/
def ofDocument (surplus : Surplus) : Reader α Limits := fun v => do
  let ms ← record "struct BandwidthLimits" surplus
    [.may "read" (DirectionLimits.read surplus), .may "write" (DirectionLimits.read surplus)]
    (shape v)
  return { read := ← ms.orElse "read" (DirectionLimits.read surplus) {}
           write := ← ms.orElse "write" (DirectionLimits.read surplus) {} }

end Limits

namespace FlatLimits

variable {ρ : Type}

/-- The ten keys as fields of a record, with rates read by `rate`. -/
def fields (rate : Reader α ρ) : List (RecordField α) :=
  [.may "mbps_r_burst" real, .may "mbps_r_concurrent" real, .may "mbps_wr_burst" real,
    .may "mbps_wr_concurrent" real, .may "iops_r_burst" rate, .may "iops_r_burst_length" rate,
    .may "iops_r_concurrent" rate, .may "iops_wr_burst" rate, .may "iops_wr_burst_length" rate,
    .may "iops_wr_concurrent" rate]

/-- The limits among the members of a record. -/
def ofMembers (rate : Reader α ρ) (zero : ρ) (ms : Members α) :
    Except Fault (FlatLimits ρ) := do
  return { mbpsReadBurst := ← ms.orElse "mbps_r_burst" real .zero
           mbpsReadConcurrent := ← ms.orElse "mbps_r_concurrent" real .zero
           mbpsWriteBurst := ← ms.orElse "mbps_wr_burst" real .zero
           mbpsWriteConcurrent := ← ms.orElse "mbps_wr_concurrent" real .zero
           iopsReadBurst := ← ms.orElse "iops_r_burst" rate zero
           iopsReadBurstLength := ← ms.orElse "iops_r_burst_length" rate zero
           iopsReadConcurrent := ← ms.orElse "iops_r_concurrent" rate zero
           iopsWriteBurst := ← ms.orElse "iops_wr_burst" rate zero
           iopsWriteBurstLength := ← ms.orElse "iops_wr_burst_length" rate zero
           iopsWriteConcurrent := ← ms.orElse "iops_wr_concurrent" rate zero }

/-- Only the limits that are set are written. -/
def json (f : FlatLimits UInt32) : Json := .ofEntries (setEntries f.widened.entries)

def read (surplus : Surplus) : Reader α (FlatLimits UInt32) := fun v => do
  let ms ← record "struct FlatBandwidth" surplus (fields uint32) (shape v)
  ofMembers uint32 0 ms

end FlatLimits

/-! ## Options -/

namespace ImageFormat

def json (f : ImageFormat) : Json := .string f.label

def read : Reader α ImageFormat := unitVariant nothingOrEmpty (all.map fun f => (f.label, f))

end ImageFormat

namespace CacheMode

def json (c : CacheMode) : Json := .string c.label

def read : Reader α CacheMode := unitVariant nothingOrEmpty (all.map fun c => (c.label, c))

end CacheMode

namespace IoEngine

def json (e : IoEngine) : Json := .string e.label

def read : Reader α IoEngine := unitVariant nothingOrEmpty (all.map fun e => (e.label, e))

end IoEngine

namespace DiskOptions

/-- The options as members of the object of their disk. -/
def members (o : DiskOptions) : List (String × Json) :=
  [("cache", .ofOption (o.cache.map CacheMode.json)),
    ("async_io", .ofOption (o.engine.map IoEngine.json)),
    ("discard", .boolean o.discard),
    ("replicate", .boolean o.replicate),
    ("backup", .boolean o.backup),
    ("serial", .ofOption (o.serial.map .string)),
    ("wwn", .ofOption (o.wwn.map .string)),
    ("emulate_ssd", .boolean o.emulateSsd),
    ("io_thread", .boolean o.ioThread),
    ("read_only", .boolean o.readOnly),
    ("bandwidth", o.limits.json)]

def fields : List (RecordField α) :=
  [.may "cache" (optional CacheMode.read), .may "async_io" (optional IoEngine.read),
    .may "discard" boolean, .may "replicate" boolean, .may "backup" boolean,
    .may "serial" (optional text), .may "wwn" (optional text), .may "emulate_ssd" boolean,
    .may "io_thread" boolean, .may "read_only" boolean,
    .may "bandwidth" (Limits.ofDocument .counted)]

/-- The options among the members that their disk leaves to them. -/
def ofMembers (ms : Members α) : Except Fault DiskOptions := do
  survey fields readable [] ms
  return { cache := ← ms.orElse "cache" (optional CacheMode.read) none
           engine := ← ms.orElse "async_io" (optional IoEngine.read) none
           discard := ← ms.orElse "discard" boolean false
           replicate := ← ms.orElse "replicate" boolean false
           backup := ← ms.orElse "backup" boolean true
           serial := ← ms.orElse "serial" (optional text) none
           wwn := ← ms.orElse "wwn" (optional text) none
           emulateSsd := ← ms.orElse "emulate_ssd" boolean false
           ioThread := ← ms.orElse "io_thread" boolean false
           readOnly := ← ms.orElse "read_only" boolean false
           limits := ← ms.orElse "bandwidth" (Limits.ofDocument .counted) {} }

end DiskOptions

/-! ## Variants -/

namespace DiskSize

/-- A size is written as its number of kibibytes. -/
def json (size : DiskSize) : Json := .ofNat size.kib.toNat

def read : Reader α DiskSize := fun v => (uint64 v).map DiskSize.mk

end DiskSize

namespace Volume

def members (v : Volume) : List (String × Json) :=
  [("storage", .string v.storage), ("size", v.size.json), ("format", v.format.json)] ++
    v.options.members

/-- The volume's own fields are read before the options, wherever they stand. -/
def read (s : Shape α) : Except Fault Volume := do
  let ms ← splitRecord "struct NormalDisk"
    [.need "storage" text, .need "size" DiskSize.read, .may "format" ImageFormat.read] s
  return { storage := ← ms.required "storage" text
           size := ← ms.required "size" DiskSize.read
           format := ← ms.orElse "format" ImageFormat.read .raw
           options := ← DiskOptions.ofMembers (ms.without ["storage", "size", "format"]) }

end Volume

namespace HostDisk

def members (d : HostDisk) : List (String × Json) := ("file", .string d.file) :: d.options.members

/-- The path is read before the options, wherever it stands. -/
def read (s : Shape α) : Except Fault HostDisk := do
  let ms ← splitRecord "struct PassthroughDisk" [.need "file" text] s
  return { file := ← ms.required "file" text
           options := ← DiskOptions.ofMembers (ms.without ["file"]) }

end HostDisk

namespace Medium

/-- An empty drive and the host's drive are bare names; an image is an object under its name. -/
def json : Medium → Json
  | none => .string "none"
  | iso storage file =>
    .object [("iso", .object [("storage", .string storage), ("file", .string file)])]
  | passthrough => .string "passthrough"

/-- The names of the media. -/
def names : List String := ["none", "iso", "passthrough"]

/-- The two parts of an image. -/
def readIso (v : α) : Except Fault Medium := do
  let s ← match shape v with
    | .map ms whole => pure (Shape.map ms whole)
    | .sequence vs whole => pure (Shape.sequence vs whole)
    | s => .error (s.mismatch "struct variant")
  let ms ← record "struct variant CdRomMedia::Iso" .counted
    [.need "storage" text, .need "file" text] s
  return .iso (← ms.required "storage" text) (← ms.required "file" text)

/-- Content given to a medium without any must be null or empty. -/
def bare (m : Medium) : Option α → Except Fault Medium
  | some v => do
    nothingOrEmpty v
    return m
  | .none => .ok m

/-- A medium is a bare name, or an object with its name as the only key. -/
def read : Reader α Medium := variant fun name content? =>
  match name with
  | "none" => bare .none content?
  | "passthrough" => bare .passthrough content?
  | "iso" =>
    match content? with
    | some v => readIso v
    | .none => .error (.invalidType .unitVariant "struct variant")
  | name => .error (.unknownVariant name names)

end Medium

namespace Variant

/-- The tag of a variant in documents. -/
inductive Tag
  | disk
  | passthrough
  | cdrom
  | cloudInit
  | delete
  | unchanged
  deriving DecidableEq

namespace Tag

def all : List Tag := [disk, passthrough, cdrom, cloudInit, delete, unchanged]

def label : Tag → String
  | disk => "disk"
  | passthrough => "passthrough"
  | cdrom => "cdrom"
  | cloudInit => "cloudinit"
  | delete => "delete"
  | unchanged => "unchanged"

/-- A tag is read by its label. -/
def read : Reader α Tag := fun v =>
  match shape v with
  | .text s => named (all.map fun t => (t.label, t)) s
  | _ => .error (mismatch v "variant identifier")

end Tag

/-- The tag of a variant. -/
def tag : Variant → Tag
  | disk _ => .disk
  | passthrough _ => .passthrough
  | cdrom _ => .cdrom
  | cloudInit _ => .cloudInit
  | delete => .delete
  | unchanged => .unchanged

/-- The members beside the tag. -/
def members : Variant → List (String × Json)
  | disk v => v.members
  | passthrough d => d.members
  | cdrom m => [("media", m.json)]
  | cloudInit storage => [("storage", .string storage)]
  | delete | unchanged => []

/-- The tag is written first. -/
def json (v : Variant) : Json := .object (("type", .string v.tag.label) :: v.members)

/-- What stands beside a tag. -/
def ofContent (tag : Tag) (s : Shape α) : Except Fault Variant :=
  match tag with
  | .disk => (Volume.read s).map .disk
  | .passthrough => (HostDisk.read s).map .passthrough
  | .cdrom => do
    let ms ← record "struct CdRom" .counted [.need "media" Medium.read] s
    return .cdrom (← ms.required "media" Medium.read)
  | .cloudInit => do
    let ms ← record "struct CloudInitDisk" .counted [.need "storage" text] s
    return .cloudInit (← ms.required "storage" text)
  | .delete => (emptyContent s).map fun _ => .delete
  | .unchanged => (emptyContent s).map fun _ => .unchanged

/-- The tag decides how the rest is read. -/
def read : Reader α Variant := fun v => do
  let (tag, content) ← tagged "internally tagged enum DiskVariant" "type" Tag.read (shape v)
  ofContent tag content

end Variant

end GuestDisks
