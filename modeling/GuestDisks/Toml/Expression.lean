import GuestDisks.Toml.Scalar

/-!
# Values of TOML text

Any TOML value, inline tables among them. An inline table may spell out tables inside it by dotted
keys (`Table.add`), and may go on in the same way with any table inside it.
-/

namespace GuestDisks.Toml

/-- Adds a value under a dotted key, whose tables begin where there are none; nothing if the key is
taken or runs through what is not a table. -/
def Table.add : List String → String → Value → Table → Option Table
  | [], key, v, es => if (es.lookup key).isSome then none else some (es ++ [(key, v)])
  | k :: path, key, v, es =>
    match es.lookup k with
    | none => do
      let inner ← Table.add path key v []
      return es ++ [(k, .table inner)]
    | some (.table inner) => do
      let inner ← Table.add path key v inner
      return es.map fun e => if e.1 = k then (k, .table inner) else e
    | some _ => none

mutual

/-- A value. -/
def scanValue : Nat → Scan Value
  | 0, _ => none
  | fuel + 1, cs =>
    match cs with
    | [] => none
    | c :: rest =>
      if c = '\x22' ∨ c = '\x27' then (scanString cs).map fun (s, rest) => (.string s, rest)
      else if c = '[' then do
        let (items, rest) ← scanItems fuel rest
        return (.array items, rest)
      else if c = '\x7b' then
        match skipBlanks rest with
        | '\x7d' :: rest => some (.table [], rest)
        | rest => do
          let (entries, rest) ← scanEntries fuel [] rest
          return (.table entries, rest)
      else match cs with
        | 't' :: 'r' :: 'u' :: 'e' :: rest => some (.boolean true, rest)
        | 'f' :: 'a' :: 'l' :: 's' :: 'e' :: rest => some (.boolean false, rest)
        | cs => scanNumber cs

/-- The items of an array to its closing bracket. -/
def scanItems : Nat → Scan (List Value)
  | 0, _ => none
  | fuel + 1, cs =>
    match skipLines (cs.length + 1) cs with
    | ']' :: rest => some ([], rest)
    | cs => do
      let (v, cs) ← scanValue fuel cs
      match skipLines (cs.length + 1) cs with
      | ',' :: cs => do
        let (vs, rest) ← scanItems fuel cs
        return (v :: vs, rest)
      | ']' :: rest => return ([v], rest)
      | _ => none

/-- The entries of an inline table to its closing brace, added to those read so far. -/
def scanEntries : Nat → Table → Scan Table
  | 0, _, _ => none
  | fuel + 1, es, cs => do
    let (path, key, cs) ← scanKey (cs.length + 1) cs
    let cs ← expect '=' cs
    let (v, cs) ← scanValue fuel (skipBlanks cs)
    let es ← Table.add path key v es
    match skipBlanks cs with
    | ',' :: cs => scanEntries fuel es cs
    | '\x7d' :: rest => return (es, rest)
    | _ => none

end

end GuestDisks.Toml
