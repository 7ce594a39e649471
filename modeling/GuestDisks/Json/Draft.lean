import GuestDisks.Data.Shape
import GuestDisks.Json.Basic

/-!
# JSON as read from text

What a text says when it is read as JSON, as far as it can be read. A `Draft` differs from a
value in three ways: an array or object may break off (it is not whole), a value may be missing
altogether (`broken`), and a value may be well delimited and still denote nothing (`flawed`: a
number out of range, a string with half a surrogate pair). A flawed value does no harm as long as
nobody reads it. Readers therefore meet the faults of the text and those of the data in the order
of the text.
-/

namespace GuestDisks.Json

/-- JSON as read from text. A key is absent where the text gives a flawed one. -/
inductive Draft
  | null
  | boolean (b : Bool)
  | integer (n : Int)
  | real (x : Binary64)
  | string (s : String)
  | array (items : List Draft) (whole : Bool)
  | object (members : List (Option String × Draft)) (whole : Bool)
  | flawed
  | broken
  deriving Inhabited

namespace Draft

mutual

/-- Whether the text goes on after the value. -/
def skippable : Draft → Bool
  | .array items whole => whole && skippableItems items
  | .object members whole => whole && skippableMembers members
  | .broken => false
  | _ => true

def skippableItems : List Draft → Bool
  | [] => true
  | d :: ds => skippable d && skippableItems ds

def skippableMembers : List (Option String × Draft) → Bool
  | [] => true
  | (_, d) :: ms => skippable d && skippableMembers ms

end

mutual

/-- Whether every part of the value can be read. -/
def readable : Draft → Bool
  | .array items whole => whole && readableItems items
  | .object members whole => whole && readableMembers members
  | .broken | .flawed => false
  | _ => true

def readableItems : List Draft → Bool
  | [] => true
  | d :: ds => readable d && readableItems ds

def readableMembers : List (Option String × Draft) → Bool
  | [] => true
  | (key, d) :: ms => key.isSome && readable d && readableMembers ms

end

/-- The members up to the first flawed key, where reading stops. -/
def keyed : List (Option String × Draft) → List (String × Draft)
  | (some key, d) :: ms => (key, d) :: keyed ms
  | _ => []

/-- The shape of a draft: flawed and broken values alike cannot be read. -/
def shape : Draft → Data.Shape Draft
  | .null => .null
  | .boolean b => .boolean b
  | .integer n => .integer n
  | .real x => .real x
  | .string s => .text s
  | .array items whole => .sequence items whole
  | .object members whole => .map (keyed members) (whole && members.all (·.1.isSome))
  | .flawed | .broken => .unreadable

instance : Data.Shaped Draft := ⟨shape, skippable, readable⟩

end Draft

mutual

/-- The draft of a value: what a text says that writes the value out. -/
def draft : Json → Draft
  | .null => .null
  | .boolean b => .boolean b
  | .integer n => .integer n
  | .real x => .real x
  | .string s => .string s
  | .array items => .array (draftItems items) true
  | .object members => .object (draftMembers members) true

def draftItems : List Json → List Draft
  | [] => []
  | j :: js => draft j :: draftItems js

def draftMembers : List (String × Json) → List (Option String × Draft)
  | [] => []
  | (key, j) :: ms => (some key, draft j) :: draftMembers ms

end

end GuestDisks.Json
