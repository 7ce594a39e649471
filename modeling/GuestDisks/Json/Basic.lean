import GuestDisks.Data.KeyMap
import GuestDisks.Data.Scalar

/-!
# JSON values

A JSON value with its members in order. Numbers keep the form in which they were written or are
to be written: integers exactly, others as doubles.
-/

namespace GuestDisks

/-- A JSON value. -/
inductive Json
  | null
  | boolean (b : Bool)
  | integer (n : Int)
  | real (x : Binary64)
  | string (s : String)
  | array (items : List Json)
  | object (members : List (String × Json))
  deriving Inhabited

namespace Json

/-- A double as JSON data: what is not finite has no JSON form but null. -/
def ofReal (x : Binary64) : Json := if x.isFinite then .real x else .null

def ofNat (n : Nat) : Json := .integer n

/-- A value that may be absent; absence is null. -/
def ofOption : Option Json → Json
  | some j => j
  | none => .null

/-- A scalar as JSON data. -/
def ofScalar : Data.Scalar → Json
  | .text s => .string s
  | .boolean b => .boolean b
  | .integer n => .integer n
  | .real x => ofReal x

/-- Entries as the members of an object. -/
def ofEntries (es : List (String × Data.Scalar)) : Json :=
  .object (es.map fun e => (e.1, ofScalar e.2))

mutual

/-- The value with the members of every object in the order of their keys. -/
def byKey : Json → Json
  | .array items => .array (itemsByKey items)
  | .object members => .object (membersByKey members)
  | j => j

def itemsByKey : List Json → List Json
  | [] => []
  | j :: js => byKey j :: itemsByKey js

def membersByKey : List (String × Json) → List (String × Json)
  | [] => []
  | (key, j) :: ms => Data.insertEntry key (byKey j) (membersByKey ms)

end

end Json

end GuestDisks
