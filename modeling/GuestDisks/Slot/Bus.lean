/-!
# Buses

The four hardware interfaces that guest disks attach to: how many slots each has, what its disks
may do, and its label, from which slot names are made.
-/

namespace GuestDisks

/-- A hardware interface that guest disks attach to. -/
inductive Bus
  | ide
  | sata
  | scsi
  | virtio
  deriving DecidableEq

namespace Bus

/-- Every bus, in the order of the address space. -/
def all : List Bus := [ide, sata, scsi, virtio]

/-- The name of a bus, with which the names of its slots begin. -/
def label : Bus → String
  | ide => "ide"
  | sata => "sata"
  | scsi => "scsi"
  | virtio => "virtio"

/-- The number of slots of a bus. -/
def slotCount : Bus → Nat
  | ide => 4
  | sata => 6
  | scsi => 31
  | virtio => 16

/-- The features that a bus may or may not support. -/
structure Features where
  /-- Disks may present themselves as solid-state drives. -/
  emulateSsd : Bool
  /-- Disks may be served by an I/O thread of their own. -/
  ioThread : Bool
  /-- Disks may be attached read-only. -/
  readOnly : Bool
  /-- A cloud-init drive may be attached. -/
  cloudInit : Bool
  deriving DecidableEq

/-- What each bus supports. -/
def features : Bus → Features
  | ide | sata => ⟨true, false, false, true⟩
  | scsi => ⟨true, true, true, true⟩
  | virtio => ⟨false, true, true, false⟩

/-- The number of slots on the buses before this one. -/
def firstOrdinal : Bus → Nat
  | ide => 0
  | sata => ide.slotCount
  | scsi => ide.slotCount + sata.slotCount
  | virtio => ide.slotCount + sata.slotCount + scsi.slotCount

end Bus

end GuestDisks
