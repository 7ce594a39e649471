import GuestDisks.Data.KeyMap
import GuestDisks.Data.Scalar
import GuestDisks.Data.Shape
import GuestDisks.Toml.Datetime

/-!
# TOML values

A TOML value, with the keys of a table in document order. Values are equal when they agree entry by
entry (`Value.same`), floats as numbers.
-/

namespace GuestDisks.Toml

/-- A TOML value. -/
inductive Value
  | string (s : String)
  | integer (n : Int)
  | float (x : Binary64)
  | boolean (b : Bool)
  | datetime (d : Datetime)
  | array (items : List Value)
  | table (entries : List (String × Value))
  deriving Inhabited

/-- The entries of a table. -/
abbrev Table := List (String × Value)

namespace Value

/-- A scalar as a TOML value. -/
def ofScalar : Data.Scalar → Value
  | .text s => .string s
  | .boolean b => .boolean b
  | .integer n => .integer n
  | .real x => .float x

end Value

/-- Scalars under their keys as the entries of a table. -/
def Table.ofEntries (es : List (String × Data.Scalar)) : Table :=
  es.map fun e => (e.1, .ofScalar e.2)

namespace Value

/-- Whether the value is a table. -/
def isTable : Value → Bool
  | .table _ => true
  | _ => false

/-- Whether the value is an array with a table among its items. -/
def holdsTable : Value → Bool
  | .array items => items.any isTable
  | _ => false

mutual

/-- Agreement of values: floats as numbers, all else exactly. -/
def same : Value → Value → Bool
  | .string a, .string b => a == b
  | .integer a, .integer b => a == b
  | .float a, .float b => a == b
  | .boolean a, .boolean b => a == b
  | .datetime a, .datetime b => decide (a = b)
  | .array as, .array bs => sameItems as bs
  | .table as, .table bs => sameEntries as bs
  | _, _ => false

def sameItems : List Value → List Value → Bool
  | [], [] => true
  | a :: as, b :: bs => same a b && sameItems as bs
  | _, _ => false

def sameEntries : List (String × Value) → List (String × Value) → Bool
  | [], [] => true
  | (k, a) :: as, (l, b) :: bs => k == l && same a b && sameEntries as bs
  | _, _ => false

end

instance : BEq Value := ⟨same⟩

mutual

/-- The value with the entries of every table in the order in which they are written: plain
values, then arrays that hold tables, then tables, each in the order given. -/
def grouped : Value → Value
  | .array items => .array (groupedItems items)
  | .table entries =>
    let es := groupedEntries entries
    .table (es.filter (fun e => !e.2.isTable && !e.2.holdsTable) ++
      es.filter (fun e => e.2.holdsTable) ++ es.filter (fun e => e.2.isTable))
  | v => v

def groupedItems : List Value → List Value
  | [] => []
  | v :: vs => grouped v :: groupedItems vs

def groupedEntries : List (String × Value) → List (String × Value)
  | [] => []
  | (k, v) :: es => (k, grouped v) :: groupedEntries es

end

/-- The key under which a date-time shows itself to readers that do not know date-times. -/
def datetimeKey : String := "$__toml_private_datetime"

/-- The shape of a value. A date-time shows as a map with its text. -/
def shape : Value → Data.Shape Value
  | .string s => .text s
  | .integer n => .integer n
  | .float x => .real x
  | .boolean b => .boolean b
  | .datetime d => .map [(datetimeKey, .string d.text)] true
  | .array items => .sequence items true
  | .table entries => .map entries true

instance : Data.Shaped Value := ⟨shape, fun _ => true, fun _ => true⟩

end Value

end GuestDisks.Toml
