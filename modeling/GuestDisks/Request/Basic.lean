import GuestDisks.Report
import GuestDisks.Request.Fields

/-!
# Requests

A request asks for a device in a slot: what kind it is to be, and the fields that describe it.
-/

namespace GuestDisks

/-- The kind of device that a user asks for. -/
inductive Kind
  | disk
  | cdrom
  | cloudInit
  deriving DecidableEq

namespace Kind

def all : List Kind := [disk, cdrom, cloudInit]

def label : Kind → String
  | disk => "disk"
  | cdrom => "cdrom"
  | cloudInit => "cloudinit"

/-- The kind of a name. -/
def ofName (name : String) : Except Problem Kind :=
  match ofLabel? label all name with
  | some k => .ok k
  | none => .error (.invalidValue "type" name "expected one of disk, cdrom, cloudinit")

end Kind

/-- Whether a bus can host devices of a kind. -/
def Bus.accepts (bus : Bus) : Kind → Bool
  | .cloudInit => bus.features.cloudInit
  | .disk | .cdrom => true

/-- What a user asks for in one slot. -/
structure Request where
  slot : Slot
  kind : Kind
  /-- Whether the host's own file, device or drive is to be handed through. -/
  passthrough : Bool
  fields : Fields

/-- What messages call the device asked for. -/
def Request.deviceName (r : Request) : String :=
  match r.kind, r.passthrough with
  | .disk, true => "passthrough disk"
  | kind, _ => kind.label

end GuestDisks
