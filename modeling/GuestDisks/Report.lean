import GuestDisks.Slot.Name

/-!
# Reports

What is wrong with a document, and what in it was of no use. A problem makes the document
unusable; a notice does not. A report lists both in the order in which they were met, each with the
place it belongs to: the name of a slot, or a path in the document where no slot could be told.
-/

namespace GuestDisks

/-- What makes the input for a slot unusable. -/
inductive Problem
  | invalidValue (field value reason : String)
  | missingField (field : String)
  | duplicateSlot (name : String)
  | unsupportedOnBus (device : String) (bus : Bus)
  | unknownSlot (name : String) (fault : SlotFault)
  | conflictingFields (a b : String)
  | conflictingBlocks
  deriving DecidableEq

/-- What in the input was of no use. -/
inductive Notice
  | fieldIgnored (field variant : String)
  | unsupportedOnBus (field : String) (bus : Bus)
  | unknownField (key : String)
  deriving DecidableEq

/-- A problem or a notice. -/
inductive Finding
  | error (p : Problem)
  | warning (n : Notice)
  deriving DecidableEq

namespace Problem

/-- The text of a problem. -/
def message : Problem → String
  | invalidValue field value reason =>
    "invalid value " ++ Text.quote value ++ " for " ++ field ++ ": " ++ reason
  | missingField field => field ++ " is required"
  | duplicateSlot name => "slot " ++ name ++ " is already in use"
  | unsupportedOnBus device bus =>
    device ++ " devices are not supported on the " ++ bus.label ++ " bus"
  | unknownSlot name _ => "unrecognized slot " ++ Text.quote name
  | conflictingFields a b => a ++ " and " ++ b ++ " cannot be used together"
  | conflictingBlocks => "more than one device block given for a single slot"

/-- Whether the problem lies in the value of one field, and not in how fields go together. -/
def isOfValue : Problem → Bool
  | invalidValue _ _ _ => true
  | _ => false

end Problem

/-- The text of a notice. -/
def Notice.message : Notice → String
  | .fieldIgnored field variant =>
    field ++ " is not used by " ++ variant ++ " devices and was ignored"
  | .unsupportedOnBus field bus =>
    field ++ " is not supported on the " ++ bus.label ++ " bus and was ignored"
  | .unknownField key => "unknown field " ++ Text.quote key ++ " was ignored"

namespace Finding

/-- Only problems are errors. -/
def isError : Finding → Bool
  | error _ => true
  | warning _ => false

def message : Finding → String
  | error p => p.message
  | warning n => n.message

end Finding

/-- A finding and the place it belongs to. -/
structure Diagnostic where
  place : String
  finding : Finding
  deriving DecidableEq

namespace Diagnostic

def isError (d : Diagnostic) : Bool := d.finding.isError

/-- The text of a diagnostic. -/
def message (d : Diagnostic) : String :=
  d.place ++ (if d.isError then ": error: " else ": warning: ") ++ d.finding.message

end Diagnostic

/-- The findings about a document, in the order in which they were met. -/
abbrev Report := List Diagnostic

namespace Report

/-- The findings of one place. -/
def ofFindings (place : String) (fs : List Finding) : Report := fs.map (⟨place, ·⟩)

/-- The diagnostics that are errors. -/
def errors (r : Report) : Report := r.filter (·.isError)

/-- The diagnostics that are only warnings. -/
def warnings (r : Report) : Report := r.filter (!·.isError)

/-- Whether the document must not be acted upon. -/
def hasErrors (r : Report) : Bool := r.any (·.isError)

end Report

end GuestDisks
