import GuestDisks.Data.Reader

/-!
# Reading records

A record is written as a map, or as a sequence of its fields in order. Reading happens in two
steps. The first (`record`, `splitRecord`, `tagged`) goes through the members in document order
and stops at the first fault: a field given twice, a value that does not fit its field, a text
that breaks off, a required field that is missing. The second looks the fields up in the members
that passed (`required`, `orElse`). Keys that no field has are passed over, or collected where
another part of the record takes them.
-/

namespace GuestDisks.Data

variable {α : Type} [Shaped α]

/-- Members of a map, in document order. -/
abbrev Members (α : Type) := List (String × α)

/-- One field of a record: its key, whether it must be given, and the test of its value. -/
structure RecordField (α : Type) where
  key : String
  isRequired : Bool
  check : α → Except Fault Unit

/-- A field that must be given. -/
def RecordField.need {β : Type} (key : String) (read : Reader α β) : RecordField α :=
  ⟨key, true, fun v => (read v).map fun _ => ()⟩

/-- A field with a default. -/
def RecordField.may {β : Type} (key : String) (read : Reader α β) : RecordField α :=
  ⟨key, false, fun v => (read v).map fun _ => ()⟩

/-- What becomes of the elements of a sequence beyond the last field. -/
inductive Surplus
  /-- The text is taken to break off at them. -/
  | unreadable
  /-- They make the sequence too long, compared with the number of fields. -/
  | counted
  /-- They make the sequence too long. -/
  | excess
  | ignored

/-- A count of elements, as messages put it. -/
def elementCount (n : Nat) : String :=
  Decimal.ofNat n ++ (if n = 1 then " element" else " elements")

/-- The first required field that the members lack. -/
def missing? (fields : List (RecordField α)) (ms : Members α) : Option String :=
  (fields.find? fun f => f.isRequired && (ms.lookup f.key).isNone).map (·.key)

/-- Refuses members that lack a required field. -/
def complete (fields : List (RecordField α)) (ms : Members α) : Except Fault Unit :=
  match missing? fields ms with
  | some key => .error (.missingField key)
  | none => .ok ()

/-- Refuses what breaks off. -/
def ending (whole : Bool) : Except Fault Unit :=
  if whole then .ok () else .error .unreadable

/-- Goes through the members in order, testing those that have a field and leaving the others
to `other`; `seen` holds the keys of the fields met so far. -/
def survey (fields : List (RecordField α)) (other : α → Bool) :
    List String → Members α → Except Fault Unit
  | _, [] => .ok ()
  | seen, (key, v) :: ms =>
    match fields.find? fun f => f.key == key with
    | none => if other v then survey fields other seen ms else .error .unreadable
    | some f =>
      if seen.contains key then .error (.duplicateField key)
      else do
        f.check v
        survey fields other (key :: seen) ms

/-- Gives the elements of a sequence the keys of the fields, in order, testing each. -/
def inOrder (what : String) (total : Nat) (surplus : Surplus) (whole : Bool) :
    List (RecordField α) → Nat → List α → Except Fault (Members α)
  | f :: fs, n, v :: vs => do
    f.check v
    let ms ← inOrder what total surplus whole fs (n + 1) vs
    return (f.key, v) :: ms
  | f :: fs, n, [] =>
    if !whole then .error .unreadable
    else if f.isRequired then .error (.invalidLength n (what ++ " with " ++ elementCount total))
    else inOrder what total surplus whole fs (n + 1) []
  | [], _, [] => (ending whole).map fun _ => []
  | [], n, vs =>
    match surplus with
    | .unreadable => .error .unreadable
    | .counted => .error (.invalidLength (n + vs.length) (elementCount n ++ " in sequence"))
    | .excess => .error (.invalidLength (n + vs.length) "fewer elements in array")
    | .ignored => .ok []

/-- The members of a record, written as a map or as a sequence. -/
def record (what : String) (surplus : Surplus) (fields : List (RecordField α)) (s : Shape α) :
    Except Fault (Members α) :=
  match s with
  | .map ms whole => do
    survey fields skippable [] ms
    ending whole
    complete fields ms
    return ms
  | .sequence vs whole => inOrder what fields.length surplus whole fields 0 vs
  | s => .error (s.mismatch what)

/-- The members of a record that has parts besides its own fields. Only a map will do. -/
def splitRecord (what : String) (fields : List (RecordField α)) (s : Shape α) :
    Except Fault (Members α) :=
  match s with
  | .map ms whole => do
    survey fields readable [] ms
    ending whole
    complete fields ms
    return ms
  | s => .error (s.mismatch what)

/-- The members that belong to none of the fields with these keys. -/
def Members.without (keys : List String) (ms : Members α) : Members α :=
  ms.filter fun m => !keys.contains m.1

/-- The value of a required field. -/
def Members.required {β : Type} (ms : Members α) (key : String) (read : Reader α β) :
    Except Fault β :=
  match ms.lookup key with
  | some v => read v
  | none => .error (.missingField key)

/-- The value of a field with a default. -/
def Members.orElse {β : Type} (ms : Members α) (key : String) (read : Reader α β) (default : β) :
    Except Fault β :=
  match ms.lookup key with
  | some v => read v
  | none => .ok default

/-- Goes through the members of a tagged variant for its tag. -/
def tagMember {β : Type} (tag : String) (readTag : Reader α β) :
    Option β → Members α → Except Fault (Option β)
  | found, [] => .ok found
  | found, (key, v) :: ms =>
    if key = tag then
      match found with
      | some _ => .error (.duplicateField tag)
      | none => do
        let b ← readTag v
        tagMember tag readTag (some b) ms
    else if readable v then tagMember tag readTag found ms
    else .error .unreadable

/-- A tagged variant: the tag, and the rest of the map or sequence that holds it. -/
def tagged {β : Type} (what tag : String) (readTag : Reader α β) (s : Shape α) :
    Except Fault (β × Shape α) :=
  match s with
  | .map ms whole => do
    let found ← tagMember tag readTag none ms
    ending whole
    match found with
    | some b => return (b, .map (Members.without [tag] ms) true)
    | none => .error (.missingField tag)
  | .sequence [] whole => do
    ending whole
    .error (.missingField tag)
  | .sequence (v :: vs) whole => do
    let b ← readTag v
    if vs.all readable && whole then return (b, .sequence vs true) else .error .unreadable
  | s => .error (s.mismatch what)

/-- A variant without fields, after its tag: keys are passed over, elements are too many. -/
def emptyContent (s : Shape α) : Except Fault Unit :=
  match s with
  | .sequence (v :: vs) _ =>
    .error (.invalidLength (v :: vs).length (elementCount 0 ++ " in sequence"))
  | _ => .ok ()

end GuestDisks.Data
