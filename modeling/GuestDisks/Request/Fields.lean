import GuestDisks.Device.Size
import GuestDisks.Device.Variant
import GuestDisks.Request.Settings

/-!
# Fields

All that a user may write about the device of one slot, whichever device it is. A field is absent
when it is empty.
-/

namespace GuestDisks

/-- What a user wrote about a device. -/
structure Fields where
  storage : String := ""
  size : String := ""
  format : String := ""
  /-- An image for a CD drive, as a storage pool, a colon and a path. -/
  iso : String := ""
  /-- The path of a host disk. -/
  diskFile : String := ""
  settings : Settings := {}
  deriving DecidableEq, BEq

namespace Fields

/-- The fields beside the settings, with their keys. -/
def texts (f : Fields) : List (String × String) :=
  [("storage", f.storage), ("size", f.size), ("format", f.format), ("iso", f.iso),
    ("disk_file", f.diskFile)]

/-- The keys of the fields that the user supplied, the settings apart. -/
def populated (f : Fields) : List String := (f.texts.filter fun e => e.2 != "").map (·.1)

/-- The fields that ask for a volume. -/
def ofVolume (v : Volume) : Fields where
  storage := v.storage
  size := v.size.text
  format := v.format.label
  settings := .ofOptions v.options

/-- The fields that ask for a host disk. -/
def ofHostDisk (d : HostDisk) : Fields where
  diskFile := d.file
  settings := .ofOptions d.options

/-- The fields that ask for a medium. That of the host's drive is asked for by a flag. -/
def ofMedium : Medium → Fields
  | .iso storage file => { iso := storage ++ ":" ++ file }
  | .none | .passthrough => {}

end Fields

end GuestDisks
