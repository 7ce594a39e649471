import GuestDisks.Data.Fault
import GuestDisks.Json.Draft
import GuestDisks.Number.Rounding

/-!
# Reading JSON text

The draft of a text (`readDraft`). Each reader gives what it read and the rest of the text, or no
rest if the text breaks off. A text that goes on after its value does not break the value, but
the document it makes is not whole.

Numbers follow a fixed procedure: the digits are gathered in 64 bits, further ones only moving the
exponent, and the result is scaled by powers of ten in double precision. It is exact for integers
of up to 64 bits and right to the last digit or nearly so for the rest.
-/

namespace GuestDisks.Json

/-- Blanks between tokens. -/
def isBlank (c : Char) : Bool := c == ' ' || c == '\t' || c == '\n' || c == '\r'

def skipBlanks (cs : List Char) : List Char := cs.dropWhile isBlank

/-! ## Numbers -/

/-- The value of a hexadecimal digit. -/
def hexValue? (c : Char) : Option Nat :=
  if '0' ≤ c ∧ c ≤ '9' then some (c.toNat - 48)
  else if 'a' ≤ c ∧ c ≤ 'f' then some (c.toNat - 87)
  else if 'A' ≤ c ∧ c ≤ 'F' then some (c.toNat - 55)
  else none

/-- The double nearest to a power of ten. -/
def powerOfTen (n : Nat) : Binary64 := .ofDecimal false 1 n

/-- A double times ten to an exponent, scaled in steps of at most 308; `none` if it grows out of
range. -/
def scale (x : Binary64) (e : Int) : Option Binary64 :=
  if e < 0 then
    if e < -308 then
      if x.isZero then some x
      else scale (x.quotient (powerOfTen 308)) (e + 308)
    else some (x.quotient (powerOfTen e.natAbs))
  else if 308 < e then (if x.isZero then some x else none)
  else
    let y := x.product (powerOfTen e.natAbs)
    if y.isFinite then some y else none
termination_by e.natAbs

/-- Gathers digits while they fit 64 bits: the significand and how many digits did not. -/
def gather : Nat → List Char → Nat × Nat
  | n, [] => (n, 0)
  | n, c :: cs =>
    let m := 10 * n + Decimal.digitValue c
    if m < 0x10000000000000000 then gather m cs else (n, (c :: cs).length)

/-- The double of a number's parts: digits before and after the point, and the exponent. -/
def realOf (negative : Bool) (whole fraction : List Char) (e : Int) : Option Binary64 :=
  let (n, dropped) := gather 0 whole
  let (m, left) := gather n fraction
  let e := e + dropped - (fraction.length - left)
  (scale (.ofInt m) e).map fun x => if negative then x.neg else x

/-- The value of a number's parts. -/
def numberOf (negative : Bool) (whole fraction : List Char) (hasExponent : Bool) (e : Int) :
    Draft :=
  if fraction.isEmpty && !hasExponent then
    let n := Decimal.value whole
    if !negative && n < 0x10000000000000000 then .integer n
    else if negative && 0 < n && n ≤ 0x8000000000000000 then .integer (-n)
    else match realOf negative whole [] 0 with
      | some x => .real x
      | none => .flawed
  else match realOf negative whole fraction e with
    | some x => .real x
    | none => .flawed

/-- The digits at the beginning of a text. -/
def digitsOf (cs : List Char) : List Char := cs.takeWhile Decimal.isDigit

/-- The text after its leading digits. -/
def afterDigits (cs : List Char) : List Char := cs.dropWhile Decimal.isDigit

/-- The exponent part, after its letter: `none` without digits. -/
def readExponent (cs : List Char) : Option (Int × List Char) :=
  let (negative, cs) := match cs with
    | '-' :: cs => (true, cs)
    | '+' :: cs => (false, cs)
    | cs => (false, cs)
  if (digitsOf cs).isEmpty then none
  else
    let n : Int := Decimal.value (digitsOf cs)
    some (if negative then -n else n, afterDigits cs)

/-- A number after its sign. -/
def readNumber (negative : Bool) (cs : List Char) : Draft × Option (List Char) :=
  let whole := digitsOf cs
  if whole.isEmpty || (whole.head? == some '0' && 1 < whole.length) then (.broken, none)
  else
    let (fraction, cs) : Option (List Char) × List Char := match afterDigits cs with
      | '.' :: cs =>
        (if (digitsOf cs).isEmpty then none else some (digitsOf cs), afterDigits cs)
      | cs => (some [], cs)
    match fraction, cs with
    | none, _ => (.broken, none)
    | some fraction, c :: cs =>
      if c = 'e' ∨ c = 'E' then
        match readExponent cs with
        | none => (.broken, none)
        | some (e, cs) => (numberOf negative whole fraction true e, some cs)
      else (numberOf negative whole fraction false 0, some (c :: cs))
    | some fraction, [] => (numberOf negative whole fraction false 0, some [])

/-! ## Strings -/

/-- Four hexadecimal digits. -/
def readHex4 : List Char → Option (Nat × List Char)
  | a :: b :: c :: d :: cs => do
    let a ← hexValue? a
    let b ← hexValue? b
    let c ← hexValue? c
    let d ← hexValue? d
    return (((a * 16 + b) * 16 + c) * 16 + d, cs)
  | _ => none

/-- The character that an escape letter stands for. -/
def escaped? : Char → Option Char
  | '\x22' => some '\x22'
  | '\\' => some '\\'
  | '/' => some '/'
  | 'b' => some '\x08'
  | 'f' => some '\x0c'
  | 'n' => some '\n'
  | 'r' => some '\r'
  | 't' => some '\t'
  | _ => none

/-- A string after its opening quote. The outer option is absent if the text breaks off, the
inner one if the string is flawed. A leading surrogate needs a trailing one right after it. -/
def readString : Nat → List Char → Option (Option (List Char) × List Char)
  | 0, _ => none
  | fuel + 1, '\\' :: 'u' :: cs => do
    let (n, cs) ← readHex4 cs
    if 0xD800 ≤ n ∧ n < 0xDC00 then
      match cs with
      | '\\' :: 'u' :: cs' =>
        let (m, cs'') ← readHex4 cs'
        if 0xDC00 ≤ m ∧ m < 0xE000 then
          let c := Char.ofNat (0x10000 + (n - 0xD800) * 1024 + (m - 0xDC00))
          let (s, rest) ← readString fuel cs''
          return (s.map (c :: ·), rest)
        else
          let (_, rest) ← readString fuel cs
          return (none, rest)
      | cs =>
        let (_, rest) ← readString fuel cs
        return (none, rest)
    else
      let (s, rest) ← readString fuel cs
      if 0xDC00 ≤ n ∧ n < 0xE000 then return (none, rest)
      else return (s.map (Char.ofNat n :: ·), rest)
  | fuel + 1, '\\' :: e :: cs => do
    let c ← escaped? e
    let (s, rest) ← readString fuel cs
    return (s.map (c :: ·), rest)
  | _ + 1, '\x22' :: cs => some (some [], cs)
  | fuel + 1, c :: cs =>
    if c.toNat < 0x20 then none
    else do
      let (s, rest) ← readString fuel cs
      return (s.map (c :: ·), rest)
  | _ + 1, [] => none

/-- The draft of a string. -/
def stringDraft : Option (List Char) → Draft
  | some s => .string (String.ofList s)
  | none => .flawed

/-! ## Values -/

mutual

/-- A value after blanks. -/
def readValue : Nat → List Char → Draft × Option (List Char)
  | 0, _ => (.broken, none)
  | fuel + 1, cs =>
    match skipBlanks cs with
    | [] => (.broken, none)
    | c :: cs =>
      if c = '\x22' then
        match readString (cs.length + 1) cs with
        | some (s, rest) => (stringDraft s, some rest)
        | none => (.broken, none)
      else if c = '[' then
        match skipBlanks cs with
        | ']' :: rest => (.array [] true, some rest)
        | cs =>
          let (items, whole, rest) := readItems fuel cs
          (.array items whole, rest)
      else if c = '\x7b' then
        match skipBlanks cs with
        | '\x7d' :: rest => (.object [] true, some rest)
        | cs =>
          let (members, whole, rest) := readMembers fuel cs
          (.object members whole, rest)
      else if c = '-' then readNumber true cs
      else if Decimal.isDigit c then readNumber false (c :: cs)
      else match "null".toList.isPrefixOf? (c :: cs) with
        | some rest => (.null, some rest)
        | none => match "true".toList.isPrefixOf? (c :: cs) with
          | some rest => (.boolean true, some rest)
          | none => match "false".toList.isPrefixOf? (c :: cs) with
            | some rest => (.boolean false, some rest)
            | none => (.broken, none)

/-- The items of an array, the next one first, to its closing bracket. -/
def readItems : Nat → List Char → List Draft × Bool × Option (List Char)
  | 0, _ => ([], false, none)
  | fuel + 1, cs =>
    match readValue fuel cs with
    | (.broken, _) => ([], false, none)
    | (d, none) => ([d], false, none)
    | (d, some cs) =>
      match skipBlanks cs with
      | ']' :: rest => ([d], true, some rest)
      | ',' :: cs =>
        let (ds, whole, rest) := readItems fuel cs
        (d :: ds, whole, rest)
      | _ => ([d], false, none)

/-- The members of an object, the next one first, to its closing brace. -/
def readMembers : Nat → List Char → List (Option String × Draft) × Bool × Option (List Char)
  | 0, _ => ([], false, none)
  | fuel + 1, cs =>
    match skipBlanks cs with
    | '\x22' :: cs =>
      match readString (cs.length + 1) cs with
      | none => ([], false, none)
      | some (key, cs) =>
        let key := key.map String.ofList
        match skipBlanks cs with
        | ':' :: cs =>
          match readValue fuel cs with
          | (d, none) => ([(key, d)], false, none)
          | (d, some cs) =>
            match skipBlanks cs with
            | '\x7d' :: rest => ([(key, d)], true, some rest)
            | ',' :: cs =>
              let (ms, whole, rest) := readMembers fuel cs
              ((key, d) :: ms, whole, rest)
            | _ => ([(key, d)], false, none)
        | _ => ([(key, .broken)], false, none)
    | _ => ([], false, none)

end

/-- The draft of a text's first value, and whether nothing but blanks follows it. -/
def readDraft (s : String) : Draft × Bool :=
  let cs := s.toList
  match readValue (cs.length + 1) cs with
  | (d, none) => (d, false)
  | (d, some rest) => (d, (skipBlanks rest).isEmpty)

/-- Reads a document: the data first, then that the text ends with it. -/
def readDocument {β : Type} (read : Draft → Except Data.Fault β) (s : String) :
    Except Data.Fault β := do
  let (d, ended) := readDraft s
  let b ← read d
  if ended then return b else .error .unreadable

end GuestDisks.Json
