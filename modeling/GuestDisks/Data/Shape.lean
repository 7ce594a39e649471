import GuestDisks.Number.Binary64

/-!
# The shape of document data

Reading a document asks one thing of its data: what shape a value has. Values of the two
document formats show the same shapes (`Shaped`), so one set of readers serves both. A text may
break off or hold a value that cannot be read; the value's shape then says so at that place,
which is how the first fault in document order is found.
-/

namespace GuestDisks.Data

/-- One layer of a document value. A sequence or a map that is not `whole` breaks off after the
items given. -/
inductive Shape (α : Type)
  | null
  | boolean (b : Bool)
  | integer (n : Int)
  | real (x : Binary64)
  | text (s : String)
  | sequence (items : List α) (whole : Bool)
  | map (members : List (String × α)) (whole : Bool)
  /-- No value can be read here. -/
  | unreadable

/-- Document values that show a shape. -/
class Shaped (α : Type) where
  shape : α → Shape α
  /-- Whether the value can be passed over without being read. -/
  skippable : α → Bool
  /-- Whether the value can be read to its last part. -/
  readable : α → Bool

export Shaped (shape skippable readable)

end GuestDisks.Data
