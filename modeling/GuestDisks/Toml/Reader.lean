import GuestDisks.Toml.Expression

/-!
# Reading TOML text

A TOML text is a list of statements, one a line: a value under a key, the header of a table, the
header of the next table of an array. `readDocument` carries them out one by one on a growing tree
of tables and gives the finished table, each table with its entries in the order in which they
were begun.

A table comes about in three ways, and that decides what may still be added to it: `explicit`, by
its own header or as an element of an array, and then only its header's block may add values;
`implied`, because a header names a table inside it, and then its own header may still come;
`dotted`, by dotted keys, and then only dotted keys of the same block add to it.
-/

namespace GuestDisks.Toml

/-- One line of a TOML text. -/
inductive Statement
  | entry (path : List String) (key : String) (v : Value)
  | header (path : List String) (key : String)
  | element (path : List String) (key : String)

/-- How a table came about. -/
inductive Origin
  | explicit
  | implied
  | dotted
  deriving DecidableEq

/-- A tree of tables under construction. -/
inductive Node
  | value (v : Value)
  | table (origin : Origin) (entries : List (String × Node))
  | elements (tables : List (List (String × Node)))
  deriving Inhabited

/-- The entries of a table under construction. -/
abbrev Entries := List (String × Node)

namespace Node

mutual

/-- The value that a finished tree stands for. -/
def toValue : Node → Value
  | .value v => v
  | .table _ entries => .table (toEntries entries)
  | .elements tables => .array (toItems tables)

def toEntries : List (String × Node) → List (String × Value)
  | [] => []
  | (k, n) :: es => (k, toValue n) :: toEntries es

def toItems : List (List (String × Node)) → List Value
  | [] => []
  | es :: ts => .table (toEntries es) :: toItems ts

end

end Node

/-- Replaces the entry of a key that is there. -/
def replaceEntry (k : String) (n : Node) (es : Entries) : Entries :=
  es.map fun e => if e.1 = k then (k, n) else e

/-- Changes the last of several tables. -/
def changeLast (f : Entries → Option Entries) : List Entries → Option (List Entries)
  | [] => none
  | [t] => (f t).map fun t => [t]
  | t :: ts => (changeLast f ts).map (t :: ·)

/-- Goes down a path of table names, beginning implied tables where there are none and taking the
last element of an array, and changes the table at its end. -/
def changeAt (f : Entries → Option Entries) : List String → Entries → Option Entries
  | [], es => f es
  | k :: path, es =>
    match es.lookup k with
    | none => do
      let inner ← changeAt f path []
      return es ++ [(k, .table .implied inner)]
    | some (.value _) => none
    | some (.table origin inner) => do
      let inner ← changeAt f path inner
      return replaceEntry k (.table origin inner) es
    | some (.elements tables) => do
      let tables ← changeLast (changeAt f path) tables
      return replaceEntry k (.elements tables) es

/-- Begins the table of a header: a new one, or one implied so far, which moves to the end. -/
def beginTable (key : String) (es : Entries) : Option Entries :=
  match es.lookup key with
  | none => some (es ++ [(key, .table .explicit [])])
  | some (.table .implied inner) =>
    some (es.filter (fun e => e.1 != key) ++ [(key, .table .explicit inner)])
  | some _ => none

/-- Begins the next element of an array of tables. -/
def beginElement (key : String) (es : Entries) : Option Entries :=
  match es.lookup key with
  | none => some (es ++ [(key, .elements [[]])])
  | some (.elements tables) => some (replaceEntry key (.elements (tables ++ [[]])) es)
  | some _ => none

/-- Adds a value under a dotted key to the table of the current block. -/
def addEntry : List String → String → Value → Entries → Option Entries
  | [], key, v, es =>
    if (es.lookup key).isSome then none else some (es ++ [(key, .value v)])
  | k :: path, key, v, es =>
    match es.lookup k with
    | none => do
      let inner ← addEntry path key v []
      return es ++ [(k, .table .dotted inner)]
    | some (.table .dotted inner) => do
      let inner ← addEntry path key v inner
      return replaceEntry k (.table .dotted inner) es
    | some (.table .implied inner) =>
      -- A dotted key may run through an implied table, but not end in one.
      if path.isEmpty then none
      else do
        let inner ← addEntry path key v inner
        return replaceEntry k (.table .implied inner) es
    | some (.elements tables) => do
      let tables ← changeLast (addEntry path key v) tables
      if path.isEmpty then none else return replaceEntry k (.elements tables) es
    | some _ => none

/-- Carries out one statement: the path of the current block and the whole tree. -/
def Statement.apply (s : Statement) (state : List String × Entries) :
    Option (List String × Entries) :=
  let (block, root) := state
  match s with
  | .entry path key v => do
    let root ← changeAt (addEntry path key v) block root
    return (block, root)
  | .header path key => do
    let root ← changeAt (beginTable key) path root
    return (path ++ [key], root)
  | .element path key => do
    let root ← changeAt (beginElement key) path root
    return (path ++ [key], root)

/-- One statement and the end of its line. -/
def scanStatement (cs : List Char) : Option (Statement × List Char) :=
  match cs with
  | '[' :: '[' :: cs => do
    let (path, key, cs) ← scanKey (cs.length + 1) cs
    let cs ← expect ']' cs
    let cs ← expect ']' cs
    return (.element path key, ← endLine cs)
  | '[' :: cs => do
    let (path, key, cs) ← scanKey (cs.length + 1) cs
    let cs ← expect ']' cs
    return (.header path key, ← endLine cs)
  | cs => do
    let (path, key, cs) ← scanKey (cs.length + 1) cs
    let cs ← expect '=' cs
    let (v, cs) ← scanValue (cs.length + 1) (skipBlanks cs)
    return (.entry path key v, ← endLine cs)

/-- The statements of a text; lines without one are passed over. -/
def scanStatements : Nat → List Char → Option (List Statement)
  | 0, _ => none
  | fuel + 1, cs =>
    match skipBlanks cs with
    | [] => some []
    | cs =>
      match endLine cs with
      | some rest => scanStatements fuel rest
      | none => do
        let (s, rest) ← scanStatement cs
        let ss ← scanStatements fuel rest
        return s :: ss

/-- The statements of a text, which may begin with a byte order mark. -/
def statements (s : String) : Option (List Statement) :=
  let cs := match s.toList with
    | '\ufeff' :: cs => cs
    | cs => cs
  scanStatements (cs.length + 1) cs

/-- The table that a text stands for; nothing if it is not TOML. -/
def readDocument (s : String) : Option Table := do
  let ss ← statements s
  let (_, root) ← ss.foldlM (fun state s => s.apply state) ([], [])
  return Node.toEntries root

end GuestDisks.Toml
