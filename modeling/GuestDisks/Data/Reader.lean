import GuestDisks.Data.Fault
import GuestDisks.Data.Shape

/-!
# Reading scalars and names

Readers of one document value: texts, booleans, numbers, optional values and the bare names of
variants. Each reports what it found in place of what it wanted.
-/

namespace GuestDisks.Data

variable {α : Type} [Shaped α]

/-- A reader of a document value. -/
abbrev Reader (α β : Type) := α → Except Fault β

/-- What a shape is, for a message; nothing if no value can be read. -/
def Shape.found? : Shape α → Option Found
  | .null => some .null
  | .boolean b => some (.boolean b)
  | .integer n => some (.integer n)
  | .real x => some (.real x)
  | .text s => some (.text s)
  | .sequence _ _ => some .sequence
  | .map _ _ => some .map
  | .unreadable => none

/-- The fault of a shape that is not the one wanted. -/
def Shape.mismatch (s : Shape α) (expected : String) : Fault :=
  match s.found? with
  | some found => .invalidType found expected
  | none => .unreadable

/-- The fault of a value that is not of the type wanted. -/
def mismatch (v : α) (expected : String) : Fault := (shape v).mismatch expected

/-- A text as it stands. -/
def text : Reader α String := fun v =>
  match shape v with
  | .text s => .ok s
  | _ => .error (mismatch v "a string")

/-- A truth value. -/
def boolean : Reader α Bool := fun v =>
  match shape v with
  | .boolean b => .ok b
  | _ => .error (mismatch v "a boolean")

/-- A double; an integer is taken for the nearest double. -/
def real : Reader α Binary64 := fun v =>
  match shape v with
  | .real x => .ok x
  | .integer n => .ok (.ofInt n)
  | _ => .error (mismatch v "f64")

/-- An integer from `low` to `high`, the values of the type that `expected` names. -/
def integer (low high : Int) (expected : String) : Reader α Int := fun v =>
  match shape v with
  | .integer n =>
    if low ≤ n ∧ n ≤ high then .ok n else .error (.invalidValue (.integer n) expected)
  | _ => .error (mismatch v expected)

/-- A signed 64-bit integer. -/
def int64 : Reader α Int := integer (-0x8000000000000000) 0x7fffffffffffffff "i64"

/-- An unsigned 32-bit integer. -/
def uint32 : Reader α UInt32 := fun v =>
  (integer 0 0xffffffff "u32" v).map fun n => UInt32.ofNat n.toNat

/-- An unsigned 64-bit integer. -/
def uint64 : Reader α UInt64 := fun v =>
  (integer 0 0xffffffffffffffff "u64" v).map fun n => UInt64.ofNat n.toNat

/-- A value that may be null. -/
def optional {β : Type} (read : Reader α β) : Reader α (Option β) := fun v =>
  match shape v with
  | .null => .ok none
  | _ => (read v).map some

/-- No content, written as null. -/
def nothing : Reader α Unit := fun v =>
  match shape v with
  | .null => .ok ()
  | _ => .error (mismatch v "unit")

/-- No content, written as null or as an empty map. -/
def nothingOrEmpty : Reader α Unit := fun v =>
  match shape v with
  | .null => .ok ()
  | .map [] true => .ok ()
  | _ => .error (mismatch v "unit")

/-- A name among the known ones. -/
def named {β : Type} (known : List (String × β)) (name : String) : Except Fault β :=
  match known.lookup name with
  | some b => .ok b
  | none => .error (.unknownVariant name (known.map (·.1)))

/-- A variant: a bare name, or a map whose only key is the name and whose value is its content. -/
def variant {β : Type} (read : String → Option α → Except Fault β) : Reader α β := fun v =>
  match shape v with
  | .text s => read s none
  | .map [(s, content)] true => read s (some content)
  | .map _ true => .error (.invalidValue .map "map with a single key")
  | .map _ false => .error .unreadable
  | _ => .error (mismatch v "string or map")

/-- A variant without fields among the known ones. -/
def unitVariant {β : Type} (content : Reader α Unit) (known : List (String × β)) : Reader α β :=
  variant fun name content? => do
    let b ← named known name
    if let some v := content? then content v
    return b

end GuestDisks.Data
