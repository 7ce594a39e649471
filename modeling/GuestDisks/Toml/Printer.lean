import GuestDisks.Number.Layout
import GuestDisks.Toml.Scalar

/-!
# Writing TOML

The text of a table as a TOML document (`write`). A table inside a table gets a header of its own,
a non-empty array of tables one header an element; all other values stand in the lines of their
table. A table whose entries all have headers needs none itself. Blocks are set apart by an empty
line.
-/

namespace GuestDisks.Toml

/-- TOML floats always show a fraction and never an exponent. -/
def floats : Layout where
  positional := none
  keepsFraction := true
  tie := .up
  infinity := "inf"
  nan := "nan"
  signsNaN := true

/-! ## Strings and keys -/

/-- A hexadecimal digit in upper case. -/
def upperHexDigit (n : Nat) : Char := (Nat.digitChar n).toUpper

/-- One character of a basic string. -/
def escapeChar (c : Char) : List Char :=
  if c = '\x08' then ['\\', 'b']
  else if c = '\t' then ['\\', 't']
  else if c = '\n' then ['\\', 'n']
  else if c = '\x0c' then ['\\', 'f']
  else if c = '\r' then ['\\', 'r']
  else if c = '\x22' then ['\\', '\x22']
  else if c = '\\' then ['\\', '\\']
  else if c.toNat < 0x20 ∨ c = '\x7f' then
    ['\\', 'u', '0', '0', upperHexDigit (c.toNat / 16), upperHexDigit (c.toNat % 16)]
  else [c]

/-- A text as a basic string on one line. -/
def basicString (cs : List Char) : List Char := '\x22' :: cs.flatMap escapeChar ++ ['\x22']

/-- Whether three apostrophes stand in a row. -/
def hasTripleApostrophe : List Char → Bool
  | '\x27' :: '\x27' :: '\x27' :: _ => true
  | _ :: cs => hasTripleApostrophe cs
  | [] => false

/-- Whether a text is written as a literal string: it holds a backslash, which a literal string
shows as it is, and nothing that a literal string cannot hold. -/
def isLiteral (cs : List Char) : Bool :=
  cs.contains '\\' && !hasTripleApostrophe cs && cs.getLast? != some '\x27' &&
    cs.all fun c => isCommentChar c || c == '\n'

/-- A text as a string. Line breaks are kept as such, in a string of several lines. -/
def stringChars (cs : List Char) : List Char :=
  let quotes := List.replicate 3 '\x22'
  let apostrophes := List.replicate 3 '\x27'
  if isLiteral cs then
    if cs.contains '\n' then apostrophes ++ '\n' :: cs ++ apostrophes
    else if cs.contains '\x27' then apostrophes ++ cs ++ apostrophes
    else '\x27' :: cs ++ ['\x27']
  else if cs.contains '\n' then
    quotes ++ '\n' :: cs.flatMap (fun c => if c = '\n' then [c] else escapeChar c) ++ quotes
  else basicString cs

/-- A key: bare if it can be, else as a basic string. -/
def keyChars (key : String) : List Char :=
  let cs := key.toList
  if !cs.isEmpty && cs.all isBareKeyChar then cs else basicString cs

/-! ## Values -/

mutual

/-- A value within a line. -/
def valueChars : Value → List Char
  | .string s => stringChars s.toList
  | .integer n => (Decimal.ofInt n).toList
  | .float x => (floats.write x).toList
  | .boolean b => if b then ['t', 'r', 'u', 'e'] else ['f', 'a', 'l', 's', 'e']
  | .datetime d => d.chars
  | .array [] => ['[', ']']
  | .array (v :: vs) => '[' :: valueChars v ++ itemChars vs
  | .table [] => ['\x7b', '\x7d']
  | .table ((k, v) :: es) =>
    '\x7b' :: ' ' :: keyChars k ++ ' ' :: '=' :: ' ' :: valueChars v ++ entryChars es

/-- The items after the first, and the closing bracket. -/
def itemChars : List Value → List Char
  | [] => [']']
  | v :: vs => ',' :: ' ' :: valueChars v ++ itemChars vs

/-- The entries after the first, and the closing brace. -/
def entryChars : List (String × Value) → List Char
  | [] => [' ', '\x7d']
  | (k, v) :: es =>
    ',' :: ' ' :: keyChars k ++ ' ' :: '=' :: ' ' :: valueChars v ++ entryChars es

end

/-! ## Blocks -/

/-- Whether a value gets headers: a table, or a non-empty array of tables. -/
def hasHeader : Value → Bool
  | .table _ => true
  | .array (v :: vs) => (v :: vs).all Value.isTable
  | _ => false

/-- The lines of a table's own values. -/
def lines (entries : Table) : List Char :=
  (entries.filter fun e => !hasHeader e.2).flatMap fun e =>
    keyChars e.1 ++ ' ' :: '=' :: ' ' :: valueChars e.2 ++ ['\n']

/-- The dotted name of a table. -/
def pathChars (path : List String) : List Char := ['.'].intercalate (path.map keyChars)

/-- The header of a table with its lines. -/
def tableBlock (path : List String) (entries : Table) : List Char :=
  '[' :: pathChars path ++ [']', '\n'] ++ lines entries

/-- The header of an element of an array of tables with its lines. -/
def elementBlock (path : List String) (entries : Table) : List Char :=
  '[' :: '[' :: pathChars path ++ [']', ']', '\n'] ++ lines entries

/-- Whether a table shows its own header: it has lines, or nothing at all. -/
def showsHeader (entries : Table) : Bool :=
  entries.isEmpty || entries.any fun e => !hasHeader e.2

mutual

/-- The blocks of a value that gets headers, at its path. -/
def blocks (path : List String) : Value → List (List Char)
  | .table entries =>
    (if showsHeader entries then [tableBlock path entries] else []) ++ entryBlocks path entries
  | .array items => if hasHeader (.array items) then itemBlocks path items else []
  | _ => []

def entryBlocks (path : List String) : List (String × Value) → List (List Char)
  | [] => []
  | (k, v) :: es => blocks (path ++ [k]) v ++ entryBlocks path es

def itemBlocks (path : List String) : List Value → List (List Char)
  | [] => []
  | .table entries :: vs =>
    elementBlock path entries :: entryBlocks path entries ++ itemBlocks path vs
  | _ :: vs => itemBlocks path vs

end

/-- The text of a document. -/
def write (entries : Table) : String :=
  let own := lines entries
  let all := (if own.isEmpty then [] else [own]) ++ entryBlocks [] entries
  String.ofList (['\n'].intercalate all)

end GuestDisks.Toml
