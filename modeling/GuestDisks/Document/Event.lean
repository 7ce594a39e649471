import GuestDisks.Document.Basic
import GuestDisks.Request.Basic

/-!
# Events

What reading and writing documents tells the operator's log: one event for each entry or slot
table that was looked at, one for each finding, and one at the end with the totals. A record is
the text form of an event.
-/

namespace GuestDisks

/-- The sub-tables of a slot table, each for a device. -/
inductive Block
  | disk
  | passthrough
  | cdrom
  | cloudInit
  deriving DecidableEq

namespace Block

/-- The key of a sub-table. -/
def label : Block → String
  | disk => "disk"
  | passthrough => "passthrough"
  | cdrom => "cdrom"
  | cloudInit => "cloudinit"

/-- The kind of device that a sub-table asks for. -/
def kind : Block → Kind
  | disk | passthrough => .disk
  | cdrom => .cdrom
  | cloudInit => .cloudInit

end Block

/-- What became of a slot table. -/
inductive Outcome
  /-- The slot holds the device of the sub-table. -/
  | device (b : Block)
  | unchanged
  | delete
  | rejected
  deriving DecidableEq

def Outcome.label : Outcome → String
  | .device b => b.label
  | .unchanged => "unchanged"
  | .delete => "delete"
  | .rejected => "rejected"

/-- Something that the log tells. -/
inductive Event
  | entry (slot : Slot) (kind : Kind) (accepted : Bool)
  | slotTable (slot : Slot) (outcome : Outcome)
  | finding (d : Diagnostic)
  | decoded (devices errors warnings : Nat)
  | encoded (surface : Surface) (cloudInit : Bool)
  deriving DecidableEq

/-- How much a record matters. -/
inductive Level
  | debug
  | info
  | warning
  | error
  deriving DecidableEq

def Level.label : Level → String
  | .debug => "DEBUG"
  | .info => "INFO"
  | .warning => "WARNING"
  | .error => "ERROR"

/-- A record of the log, with its named values. -/
structure LogRecord where
  level : Level
  message : String
  values : List (String × String)

namespace Event

/-- A truth value in the log. -/
def truth (b : Bool) : String := if b then "true" else "false"

/-- The level of an event. -/
def level : Event → Level
  | entry _ _ _ | slotTable _ _ | encoded _ _ => .debug
  | decoded _ _ _ => .info
  | finding d => if d.isError then .error else .warning

/-- The text of an event. -/
def message : Event → String
  | entry _ _ _ => "decoded list entry"
  | slotTable _ _ => "decoded slot table"
  | decoded _ _ _ => "decoded storage configuration"
  | encoded _ _ => "encoded storage configuration"
  | finding d => d.finding.message

/-- The named values of an event. -/
def values : Event → List (String × String)
  | entry slot kind accepted =>
    [("slot", slot.name), ("type", kind.label), ("accepted", truth accepted)]
  | slotTable slot outcome => [("slot", slot.name), ("outcome", outcome.label)]
  | decoded devices errors warnings =>
    [("devices", Decimal.ofNat devices), ("errors", Decimal.ofNat errors),
      ("warnings", Decimal.ofNat warnings)]
  | encoded surface cloudInit => [("surface", surface.label), ("cloud_init", truth cloudInit)]
  | finding d => [("slot", d.place)]

/-- The record of an event; events of reading also name the surface that is read. -/
def record (reading : Option Surface) (e : Event) : LogRecord where
  level := e.level
  message := e.message
  values := e.values ++ reading.toList.map fun s => ("surface", s.label)

end Event

end GuestDisks
