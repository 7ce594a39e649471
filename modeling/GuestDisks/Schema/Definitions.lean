import GuestDisks.Device.Json
import GuestDisks.Schema.Basic
import GuestDisks.Slot.Bus

/-!
# Schemas of the library's types

The schemas of configurations, slots, buses, sizes, variants and limits, as far as they are
written in JSON. Default values are those that the readers use.
-/

namespace GuestDisks.Schema

/-- A remark of a description only. -/
def about (description : String) : Remark := { description := some description }

/-- A remark of a default only. -/
def byDefault (j : Json) : Remark := { default := some j.byKey }

/-- A remark of both. -/
def aboutDefault (description : String) (j : Json) : Remark :=
  { description := some description, default := some j.byKey }

/-! ## Definitions that others refer to -/

def throughput : Definition where
  name := "MbpsLimits"
  remark := about "Throughput limits in megabytes per second."
  form := .record
    [("burst", byDefault (.real .zero), .double), ("concurrent", byDefault (.real .zero), .double)]
    false

def rate : Definition where
  name := "IopsLimits"
  remark := about "Operation-rate limits in I/O operations per second."
  form := .record
    [("burst", byDefault (.ofNat 0), .unsigned 32),
      ("burst_length",
        aboutDefault "How long, in seconds, the guest may sustain the burst rate." (.ofNat 0),
        .unsigned 32),
      ("concurrent", byDefault (.ofNat 0), .unsigned 32)]
    false

def direction : Definition where
  name := "DirectionLimits"
  form := .record
    [("mbps", byDefault ({} : Throughput).json, .named "MbpsLimits"),
      ("iops", byDefault ({} : Rate).json, .named "IopsLimits")]
    false

def limits : Definition where
  name := "BandwidthLimits"
  form := .record
    [("read", byDefault ({} : DirectionLimits).json, .named "DirectionLimits"),
      ("write", byDefault ({} : DirectionLimits).json, .named "DirectionLimits")]
    false

def format : Definition where
  name := "DiskFormat"
  remark := about "On-disk image format of a managed disk."
  form := .names (ImageFormat.all.map ImageFormat.label)

def cache : Definition where
  name := "CacheMode"
  remark := about "Host page-cache mode for a disk."
  form := .names (CacheMode.all.map CacheMode.label)

def engine : Definition where
  name := "AsyncIo"
  remark := about "Asynchronous I/O engine used by the host for a disk."
  form := .names (IoEngine.all.map IoEngine.label)

def medium : Definition where
  name := "CdRomMedia"
  form := .oneOf
    [(about "An empty drive.", .names ["none"]),
      (about "An ISO image stored on a storage pool, e.g. `local:iso/ubuntu.iso`.",
        .record [("iso", {}, .record [("storage", {}, .text), ("file", {}, .text)] false)] true),
      (about "The host's physical optical drive.", .names ["passthrough"])]

/-- The properties that managed disks and host disks share. -/
def options : List (String × Remark × Form) :=
  [("cache", byDefault .null, .optional "CacheMode"),
    ("async_io", byDefault .null, .optional "AsyncIo"),
    ("discard", byDefault (.boolean false), .flag),
    ("replicate", byDefault (.boolean false), .flag),
    ("backup", aboutDefault "Include this disk in backups." (.boolean true), .flag),
    ("serial", byDefault .null, .optionalText),
    ("wwn", aboutDefault "World wide name, `0x` followed by 16 hex digits." .null, .optionalText),
    ("emulate_ssd", byDefault (.boolean false), .flag),
    ("io_thread", byDefault (.boolean false), .flag),
    ("read_only", byDefault (.boolean false), .flag),
    ("bandwidth", byDefault ({} : Limits).json, .named "BandwidthLimits")]

/-- The object of a variant, with its tag. -/
def tagged (tag : Variant.Tag) (properties : List (String × Remark × Form)) : Form :=
  .record (("type", {}, .names [tag.label]) :: properties) false

/-- One alternative for each tag. -/
def variant : Definition where
  name := "DiskVariant"
  remark := about "The contents of one storage slot."
  form := .oneOf
    [(about "A disk whose backing volume is allocated from a storage pool.",
        tagged .disk <|
          [("storage", about "Name of the storage pool the volume lives in.", .text),
            ("size", {}, .unsigned 64),
            ("format", byDefault ImageFormat.raw.json, .named "DiskFormat")] ++ options),
      (about "A host file or block device handed directly to the guest.",
        tagged .passthrough <|
          ("file", about "Path of the file or device on the host.", .text) :: options),
      ({}, tagged .cdrom [("media", {}, .named "CdRomMedia")]),
      (about "A drive carrying generated cloud-init data.",
        tagged .cloudInit [("storage", {}, .text)]),
      (about "Remove whatever device is attached at this slot.", tagged .delete []),
      (about "Leave this slot's current state alone.", tagged .unchanged [])]

/-- The definitions that others may refer to. -/
def definitions : List Definition :=
  [throughput, rate, direction, limits, format, cache, engine, medium, variant]

/-! ## Definitions of whole documents -/

/-- The slots are not spelled out: any key may stand for one. -/
def configuration : Definition where
  name := "StorageConfiguration"
  form := .map "DiskVariant"

/-- A slot is written by its name. -/
def slot : Definition where
  name := "SlotId"
  form := .text

def bus : Definition where
  name := "Bus"
  remark := about "A hardware interface category that guest disks attach to."
  form := .names (Bus.all.map Bus.label)

/-- A size is written as its number of kibibytes. -/
def size : Definition where
  name := "uint64"
  form := .unsigned 64

/-- The schema of one of the library's types. -/
def document (d : Definition) : Json := d.document definitions

end GuestDisks.Schema
