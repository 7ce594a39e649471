import GuestDisks.Number.Layout
import GuestDisks.Text.Quoted

/-!
# Faults of document data

Why a document's data does not fit the type asked for. The first fault met in document order is
the one reported. `Fault.message` is its text; the two document formats differ only in how they
show a floating-point number.
-/

namespace GuestDisks.Data

/-- What a document holds at some place, as far as a message shows it. -/
inductive Found
  | null
  | boolean (b : Bool)
  | integer (n : Int)
  | real (x : Binary64)
  | text (s : String)
  | sequence
  | map
  /-- The bare name of a variant. -/
  | unitVariant
  deriving DecidableEq

/-- The text of what was found. -/
def Found.describe (reals : Layout) : Found → String
  | .null => "null"
  | .boolean b => "boolean `" ++ (if b then "true" else "false") ++ "`"
  | .integer n => "integer `" ++ Decimal.ofInt n ++ "`"
  | .real x => "floating point `" ++ reals.write x ++ "`"
  | .text s => "string " ++ Text.quote s
  | .sequence => "sequence"
  | .map => "map"
  | .unitVariant => "unit variant"

/-- Why a document's data does not fit. -/
inductive Fault
  /-- The document's text breaks off or cannot be read here. -/
  | unreadable
  | invalidType (found : Found) (expected : String)
  | invalidValue (found : Found) (expected : String)
  | invalidLength (length : Nat) (expected : String)
  | missingField (key : String)
  | duplicateField (key : String)
  | unknownVariant (name : String) (known : List String)
  /-- A text that the type itself refuses, in its own words. -/
  | refused (reason : String)
  deriving DecidableEq

/-- The known names of a variant, each in backticks. -/
def knownNames (known : List String) : String :=
  ", ".intercalate (known.map fun n => "`" ++ n ++ "`")

/-- The text of a fault. An unreadable text has none of its own. -/
def Fault.message (reals : Layout) : Fault → String
  | .unreadable => "unreadable text"
  | .invalidType found expected =>
    "invalid type: " ++ found.describe reals ++ ", expected " ++ expected
  | .invalidValue found expected =>
    "invalid value: " ++ found.describe reals ++ ", expected " ++ expected
  | .invalidLength length expected =>
    "invalid length " ++ Decimal.ofNat length ++ ", expected " ++ expected
  | .missingField key => "missing field `" ++ key ++ "`"
  | .duplicateField key => "duplicate field `" ++ key ++ "`"
  | .unknownVariant name known =>
    "unknown variant `" ++ name ++ "`, expected one of " ++ knownNames known
  | .refused reason => reason

end GuestDisks.Data
