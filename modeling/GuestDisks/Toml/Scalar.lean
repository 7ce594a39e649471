import GuestDisks.Number.Rounding
import GuestDisks.Toml.Basic

/-!
# Blanks, strings, numbers and keys of TOML text

Scanners for the parts of a TOML expression. A scanner gives what it read and the rest of the
text, or nothing if the text is not TOML.
-/

namespace GuestDisks.Toml

/-- A reader of the beginning of a text. -/
abbrev Scan (β : Type) := List Char → Option (β × List Char)

/-! ## Blanks and comments -/

def isBlank (c : Char) : Bool := c == ' ' || c == '\t'

def skipBlanks (cs : List Char) : List Char := cs.dropWhile isBlank

/-- Whether a character may stand in a comment: no control character but the tab. -/
def isCommentChar (c : Char) : Bool := c == '\t' || (0x20 ≤ c.toNat && c.toNat != 0x7f)

/-- The text after a line break. -/
def afterNewline? : List Char → Option (List Char)
  | '\n' :: cs => some cs
  | '\r' :: '\n' :: cs => some cs
  | _ => none

/-- The text after a comment, if there is one. -/
def skipComment : List Char → List Char
  | '#' :: cs => cs.dropWhile isCommentChar
  | cs => cs

/-- The end of a line: blanks and a comment, then a line break or the end of the text. -/
def endLine (cs : List Char) : Option (List Char) :=
  match skipComment (skipBlanks cs) with
  | [] => some []
  | cs => afterNewline? cs

/-- Blanks, comments and line breaks between the items of an array. -/
def skipLines : Nat → List Char → List Char
  | 0, cs => cs
  | fuel + 1, cs =>
    match afterNewline? (skipComment (skipBlanks cs)) with
    | some rest => skipLines fuel rest
    | none => skipBlanks cs

/-! ## Strings -/

/-- The value of a hexadecimal digit. -/
def hexValue? (c : Char) : Option Nat :=
  if '0' ≤ c ∧ c ≤ '9' then some (c.toNat - 48)
  else if 'a' ≤ c ∧ c ≤ 'f' then some (c.toNat - 87)
  else if 'A' ≤ c ∧ c ≤ 'F' then some (c.toNat - 55)
  else none

/-- A character given by `n` hexadecimal digits of its code point. -/
def scanCodePoint (n : Nat) : Scan Char := fun cs => do
  let ds ← (cs.take n).mapM hexValue?
  let code := ds.foldl (fun m d => 16 * m + d) 0
  if ds.length = n ∧ code.isValidChar then return (Char.ofNat code, cs.drop n) else none

/-- What follows the backslash of an escape. -/
def scanEscape : Scan Char
  | 'b' :: cs => some ('\x08', cs)
  | 't' :: cs => some ('\t', cs)
  | 'n' :: cs => some ('\n', cs)
  | 'f' :: cs => some ('\x0c', cs)
  | 'r' :: cs => some ('\r', cs)
  | '\x22' :: cs => some ('\x22', cs)
  | '\\' :: cs => some ('\\', cs)
  | 'u' :: cs => scanCodePoint 4 cs
  | 'U' :: cs => scanCodePoint 8 cs
  | _ => none

/-- A basic string after its opening quote. -/
def scanBasic : Nat → Scan (List Char)
  | 0, _ => none
  | fuel + 1, '\\' :: cs => do
    let (c, cs) ← scanEscape cs
    let (s, rest) ← scanBasic fuel cs
    return (c :: s, rest)
  | _ + 1, '\x22' :: cs => some ([], cs)
  | fuel + 1, c :: cs =>
    if isCommentChar c then do
      let (s, rest) ← scanBasic fuel cs
      return (c :: s, rest)
    else none
  | _ + 1, [] => none

/-- A literal string after its opening quote. -/
def scanLiteral : Scan (List Char)
  | [] => none
  | c :: cs =>
    if c = '\x27' then some ([], cs)
    else if isCommentChar c then do
      let (s, rest) ← scanLiteral cs
      return (c :: s, rest)
    else none

/-- The end of a string of several lines, at a run of quotes: three to five close it, and those
beyond three belong to it. Fewer are content. -/
def closing (quote : Char) (cs : List Char) : Option (Option (List Char × List Char)) :=
  let run := (cs.takeWhile (· == quote)).length
  if run < 3 then some none
  else if run ≤ 5 then some (some (List.replicate (run - 3) quote, cs.drop run))
  else none

/-- The text after blanks and line breaks. A carriage return belongs to a line break or is none. -/
def skipBlankLines : List Char → List Char
  | [] => []
  | '\r' :: '\n' :: cs => skipBlankLines cs
  | c :: cs => if isBlank c || c == '\n' then skipBlankLines cs else c :: cs

/-- The text after a backslash at the end of a line: all blanks and line breaks go. -/
def afterLineJoin? (cs : List Char) : Option (List Char) :=
  (afterNewline? (skipBlanks cs)).map skipBlankLines

/-- A basic string of several lines after its opening quotes. -/
def scanBasicLines : Nat → Scan (List Char)
  | 0, _ => none
  | fuel + 1, '\x22' :: cs =>
    match closing '\x22' ('\x22' :: cs) with
    | none => none
    | some (some (s, rest)) => some (s, rest)
    | some none => do
      let (s, rest) ← scanBasicLines fuel cs
      return ('\x22' :: s, rest)
  | fuel + 1, '\\' :: cs =>
    match afterLineJoin? cs with
    | some cs => scanBasicLines fuel cs
    | none => do
      let (c, cs) ← scanEscape cs
      let (s, rest) ← scanBasicLines fuel cs
      return (c :: s, rest)
  | fuel + 1, cs =>
    match afterNewline? cs with
    | some cs => do
      let (s, rest) ← scanBasicLines fuel cs
      return ('\n' :: s, rest)
    | none =>
      match cs with
      | c :: cs =>
        if isCommentChar c then do
          let (s, rest) ← scanBasicLines fuel cs
          return (c :: s, rest)
        else none
      | [] => none

/-- A literal string of several lines after its opening quotes. -/
def scanLiteralLines : Nat → Scan (List Char)
  | 0, _ => none
  | fuel + 1, '\x27' :: cs =>
    match closing '\x27' ('\x27' :: cs) with
    | none => none
    | some (some (s, rest)) => some (s, rest)
    | some none => do
      let (s, rest) ← scanLiteralLines fuel cs
      return ('\x27' :: s, rest)
  | fuel + 1, cs =>
    match afterNewline? cs with
    | some cs => do
      let (s, rest) ← scanLiteralLines fuel cs
      return ('\n' :: s, rest)
    | none =>
      match cs with
      | c :: cs =>
        if isCommentChar c then do
          let (s, rest) ← scanLiteralLines fuel cs
          return (c :: s, rest)
        else none
      | [] => none

/-- The text after an optional line break, which opens a string of several lines. -/
def dropNewline (cs : List Char) : List Char := (afterNewline? cs).getD cs

/-- A string of any of the four kinds. -/
def scanString (cs : List Char) : Option (String × List Char) :=
  let found := match cs with
    | '\x22' :: '\x22' :: '\x22' :: cs =>
      scanBasicLines (cs.length + 1) (dropNewline cs)
    | '\x22' :: cs => scanBasic (cs.length + 1) cs
    | '\x27' :: '\x27' :: '\x27' :: cs => scanLiteralLines (cs.length + 1) (dropNewline cs)
    | '\x27' :: cs => scanLiteral cs
    | _ => none
  found.map fun (s, rest) => (String.ofList s, rest)

/-! ## Numbers -/

/-- Digits of a kind, with single underscores between them; they are dropped. Nothing if an
underscore has no digit after it. -/
def scanMore (isDigit : Char → Bool) : Scan (List Char)
  | [] => some ([], [])
  | '_' :: [] => none
  | '_' :: c :: cs =>
    if isDigit c then do
      let (ds, rest) ← scanMore isDigit cs
      return (c :: ds, rest)
    else none
  | c :: cs =>
    if isDigit c then do
      let (ds, rest) ← scanMore isDigit cs
      return (c :: ds, rest)
    else some ([], c :: cs)

/-- At least one digit of a kind. -/
def scanDigits (isDigit : Char → Bool) : Scan (List Char)
  | c :: cs =>
    if isDigit c then do
      let (ds, rest) ← scanMore isDigit cs
      return (c :: ds, rest)
    else none
  | [] => none

/-- The sign of a number: whether it is negative. -/
def scanSign : List Char → Bool × List Char
  | '+' :: cs => (false, cs)
  | '-' :: cs => (true, cs)
  | cs => (false, cs)

/-- The digits of a decimal integer. A leading zero stands alone. -/
def scanWhole : Scan (List Char)
  | '0' :: cs => some (['0'], cs)
  | cs => scanDigits Decimal.isDigit cs

/-- An integer that fits 64 bits. -/
def integerOf (n : Int) : Option Value :=
  if -0x8000000000000000 ≤ n ∧ n < 0x8000000000000000 then some (.integer n) else none

/-- An integer in another base, after its letter. -/
def scanBase (base : Nat) : Scan Value := fun cs => do
  let isDigit := fun c => (hexValue? c).any fun d => d < base
  let (ds, rest) ← scanDigits isDigit cs
  let n := ds.foldl (fun m c => base * m + (hexValue? c).getD 0) 0
  return (← integerOf n, rest)

/-- An exponent, after its letter. -/
def scanExponent : Scan Int := fun cs => do
  let (negative, cs) := scanSign cs
  let (ds, rest) ← scanDigits Decimal.isDigit cs
  let n : Int := Decimal.value ds
  return (if negative then -n else n, rest)

/-- A float from its parts. What grows beyond the range upwards is refused. -/
def floatOf (negative : Bool) (whole fraction : List Char) (e : Int) : Option Value :=
  let x := Binary64.ofDecimal negative (Decimal.value (whole ++ fraction)) (e - fraction.length)
  if x = .infinity false then none else some (.float x)

/-- A number after its sign. -/
def scanUnsigned (negative : Bool) : Scan Value
  | 'i' :: 'n' :: 'f' :: cs => some (.float (.infinity negative), cs)
  | 'n' :: 'a' :: 'n' :: cs => some (.float (.nan negative), cs)
  | cs => do
    let (whole, rest) ← scanWhole cs
    match rest with
    | '.' :: rest => do
      let (fraction, rest) ← scanDigits Decimal.isDigit rest
      match rest with
      | c :: after =>
        if c = 'e' ∨ c = 'E' then do
          let (e, rest) ← scanExponent after
          return (← floatOf negative whole fraction e, rest)
        else return (← floatOf negative whole fraction 0, rest)
      | [] => return (← floatOf negative whole fraction 0, rest)
    | c :: after =>
      if c = 'e' ∨ c = 'E' then do
        let (e, rest) ← scanExponent after
        return (← floatOf negative whole [] e, rest)
      else
        let n : Int := Decimal.value whole
        return (← integerOf (if negative then -n else n), rest)
    | [] =>
      let n : Int := Decimal.value whole
      return (← integerOf (if negative then -n else n), rest)

/-- A number or a date-time. -/
def scanNumber (cs : List Char) : Option (Value × List Char) :=
  if beginsDatetime cs then
    (readDatetime cs).map fun (d, rest) => (.datetime d, rest)
  else match cs with
    | '0' :: 'x' :: cs => scanBase 16 cs
    | '0' :: 'o' :: cs => scanBase 8 cs
    | '0' :: 'b' :: cs => scanBase 2 cs
    | cs =>
      let (negative, cs) := scanSign cs
      scanUnsigned negative cs

/-! ## Keys -/

/-- Whether a character may stand in a bare key. -/
def isBareKeyChar (c : Char) : Bool :=
  ('a' ≤ c && c ≤ 'z') || ('A' ≤ c && c ≤ 'Z') || Decimal.isDigit c || c == '-' || c == '_'

/-- One part of a dotted key. -/
def scanSimpleKey (cs : List Char) : Option (String × List Char) :=
  match cs with
  | '\x22' :: cs => (scanBasic (cs.length + 1) cs).map fun (s, rest) => (String.ofList s, rest)
  | '\x27' :: cs => (scanLiteral cs).map fun (s, rest) => (String.ofList s, rest)
  | cs =>
    let key := cs.takeWhile isBareKeyChar
    if key.isEmpty then none else some (String.ofList key, cs.dropWhile isBareKeyChar)

/-- A dotted key: its parts but the last, the last, and the text after it and its blanks. -/
def scanKey : Nat → List Char → Option (List String × String × List Char)
  | 0, _ => none
  | fuel + 1, cs => do
    let (key, cs) ← scanSimpleKey (skipBlanks cs)
    match skipBlanks cs with
    | '.' :: cs => do
      let (path, last, rest) ← scanKey fuel cs
      return (key :: path, last, rest)
    | cs => return ([], key, cs)

end GuestDisks.Toml
