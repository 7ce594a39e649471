import GuestDisks.Device.Options
import GuestDisks.Device.Size

/-!
# What a slot holds

A slot holds a device or one of two markers: `delete`, that nothing is to be attached there, and
`unchanged`, that whatever is attached there is to stay.
-/

namespace GuestDisks

/-- A disk whose volume is allocated from a storage pool. -/
structure Volume where
  storage : String
  size : DiskSize
  format : ImageFormat := .raw
  options : DiskOptions
  deriving DecidableEq, BEq

/-- A file or block device of the host, handed to the guest. -/
structure HostDisk where
  file : String
  options : DiskOptions
  deriving DecidableEq, BEq

/-- What a CD drive holds. -/
inductive Medium
  /-- The drive is empty. -/
  | none
  /-- An image on a storage pool. -/
  | iso (storage file : String)
  /-- The host's own drive. -/
  | passthrough
  deriving DecidableEq

/-- The contents of a slot. -/
inductive Variant
  | disk (v : Volume)
  | passthrough (d : HostDisk)
  | cdrom (m : Medium)
  /-- A drive with generated cloud-init data on a storage pool. -/
  | cloudInit (storage : String)
  | delete
  | unchanged
  deriving DecidableEq, BEq

namespace Variant

instance : Inhabited Variant := ⟨delete⟩

/-- Whether the variant is a marker and not a device. -/
def isEmpty : Variant → Bool
  | delete | unchanged => true
  | _ => false

/-- Whether the variant is a cloud-init drive. -/
def isCloudInit : Variant → Bool
  | cloudInit _ => true
  | _ => false

/-- A short name for people. -/
def name : Variant → String
  | disk _ => "disk"
  | passthrough _ => "passthrough disk"
  | cdrom _ => "cdrom"
  | cloudInit _ => "cloudinit"
  | delete => "delete"
  | unchanged => "unchanged"

end Variant

end GuestDisks
