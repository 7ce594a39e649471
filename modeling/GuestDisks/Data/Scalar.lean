import GuestDisks.Number.Binary64

/-!
# Scalars of documents

A single value as any document format can write it. A scalar counts as *set* when it differs from
the value that an absent key stands for: the empty text, false, or zero of either sign.
-/

namespace GuestDisks.Data

/-- A single value of a document. -/
inductive Scalar
  | text (s : String)
  | boolean (b : Bool)
  | integer (n : Int)
  | real (x : Binary64)
  deriving DecidableEq

/-- Whether a scalar says anything that its absence would not. -/
def Scalar.isSet : Scalar → Bool
  | .text s => s != ""
  | .boolean b => b
  | .integer n => n != 0
  | .real x => !x.isZero

/-- The entries that are set, in the order given. -/
def setEntries (es : List (String × Scalar)) : List (String × Scalar) := es.filter (·.2.isSet)

end GuestDisks.Data
