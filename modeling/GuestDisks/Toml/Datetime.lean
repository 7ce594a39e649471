import GuestDisks.Number.Decimal

/-!
# Dates and times in TOML

A TOML date-time: a date, a time, or both with or without an offset from UTC. Reading accepts the
forms of the standard, with `T`, `t` or a blank between date and time, and any number of decimals
of a second (nine are kept). It takes the days 1 to 31 for every month; `Datetime.inCalendar`
tells whether there is such a day. Writing has one form.
-/

namespace GuestDisks.Toml

structure Date where
  year : Nat
  month : Nat
  day : Nat
  deriving DecidableEq

structure Time where
  hour : Nat
  minute : Nat
  second : Nat
  nanosecond : Nat
  deriving DecidableEq

/-- The offset of a local time from UTC. -/
inductive Offset
  | utc
  | minutes (n : Int)
  deriving DecidableEq

/-- A TOML date-time. -/
inductive Datetime
  | date (d : Date)
  | time (t : Time)
  | both (d : Date) (t : Time) (offset : Option Offset)
  deriving DecidableEq

/-! ## Writing -/

def Date.chars (d : Date) : List Char :=
  Decimal.padded 4 d.year ++ '-' :: Decimal.padded 2 d.month ++ '-' :: Decimal.padded 2 d.day

/-- The decimals of a second, without trailing zeros; nothing for a whole second. -/
def decimals (nanosecond : Nat) : List Char :=
  if nanosecond = 0 then []
  else '.' :: ((Decimal.padded 9 nanosecond).reverse.dropWhile (· == '0')).reverse

def Time.chars (t : Time) : List Char :=
  Decimal.padded 2 t.hour ++ ':' :: Decimal.padded 2 t.minute ++ ':' :: Decimal.padded 2 t.second ++
    decimals t.nanosecond

def Offset.chars : Offset → List Char
  | .utc => ['Z']
  | .minutes n =>
    (if n < 0 then '-' else '+') :: Decimal.padded 2 (n.natAbs / 60) ++
      ':' :: Decimal.padded 2 (n.natAbs % 60)

def Datetime.chars : Datetime → List Char
  | .date d => d.chars
  | .time t => t.chars
  | .both d t offset => d.chars ++ 'T' :: t.chars ++ (offset.map Offset.chars).getD []

/-- The text of a date-time. -/
def Datetime.text (d : Datetime) : String := String.ofList d.chars

/-! ## Reading -/

/-- Exactly `n` digits, and the text after them. -/
def readDigits (n : Nat) (cs : List Char) : Option (Nat × List Char) :=
  if (cs.take n).length = n ∧ (cs.take n).all Decimal.isDigit then
    some (Decimal.value (cs.take n), cs.drop n)
  else none

/-- A given character, and the text after it. -/
def expect (c : Char) : List Char → Option (List Char)
  | d :: cs => if c = d then some cs else none
  | [] => none

def readDate (cs : List Char) : Option (Date × List Char) := do
  let (year, cs) ← readDigits 4 cs
  let cs ← expect '-' cs
  let (month, cs) ← readDigits 2 cs
  let cs ← expect '-' cs
  let (day, cs) ← readDigits 2 cs
  if 1 ≤ month ∧ month ≤ 12 ∧ 1 ≤ day ∧ day ≤ 31 then
    return (⟨year, month, day⟩, cs)
  else none

/-- The decimals of a second after the point, as nanoseconds; those beyond nine are dropped. -/
def readDecimals (cs : List Char) : Option (Nat × List Char) :=
  let ds := cs.takeWhile Decimal.isDigit
  if ds.isEmpty then none
  else
    let kept := ds.take 9
    some (Decimal.value kept * Nat.pow 10 (9 - kept.length), cs.dropWhile Decimal.isDigit)

def readTime (cs : List Char) : Option (Time × List Char) := do
  let (hour, cs) ← readDigits 2 cs
  let cs ← expect ':' cs
  let (minute, cs) ← readDigits 2 cs
  let cs ← expect ':' cs
  let (second, cs) ← readDigits 2 cs
  let (nanosecond, cs) ← match cs with
    | '.' :: cs => readDecimals cs
    | cs => some (0, cs)
  if hour ≤ 23 ∧ minute ≤ 59 ∧ second ≤ 60 then
    return (⟨hour, minute, second, nanosecond⟩, cs)
  else none

/-- An offset of at most a day, if there is one. -/
def readOffset (cs : List Char) : Option (Option Offset × List Char) :=
  match cs with
  | 'Z' :: cs | 'z' :: cs => some (some .utc, cs)
  | c :: rest =>
    if c = '+' ∨ c = '-' then do
      let (hours, rest) ← readDigits 2 rest
      let rest ← expect ':' rest
      let (minutes, rest) ← readDigits 2 rest
      let n : Int := hours * 60 + minutes
      if hours ≤ 23 ∧ minutes ≤ 59 then
        return (some (.minutes (if c = '-' then -n else n)), rest)
      else none
    else some (none, cs)
  | [] => some (none, [])

/-- A date-time at the beginning of a text. A blank after a date belongs to it only if a time
follows. -/
def readDatetime (cs : List Char) : Option (Datetime × List Char) :=
  if (cs.drop 4).head? == some '-' then do
    let (d, rest) ← readDate cs
    match rest with
    | c :: after =>
      if c = 'T' ∨ c = 't' ∨ (c = ' ' ∧ (readDigits 2 after).isSome) then do
        let (t, after) ← readTime after
        let (offset, after) ← readOffset after
        return (.both d t offset, after)
      else return (.date d, rest)
    | [] => return (.date d, [])
  else do
    let (t, rest) ← readTime cs
    return (.time t, rest)

/-- The date-time that a whole text spells. -/
def Datetime.ofText? (s : String) : Option Datetime :=
  match readDatetime s.toList with
  | some (d, []) => some d
  | _ => none

/-- Whether a number-like text begins a date-time: four digits and a hyphen, or two and a
colon. -/
def beginsDatetime (cs : List Char) : Bool :=
  ((readDigits 4 cs).bind fun r => expect '-' r.2).isSome ||
    ((readDigits 2 cs).bind fun r => expect ':' r.2).isSome

/-! ## The calendar -/

def isLeapYear (year : Nat) : Bool := year % 4 == 0 && (year % 100 != 0 || year % 400 == 0)

/-- The number of days of a month. -/
def daysIn (year month : Nat) : Nat :=
  if month = 2 then (if isLeapYear year then 29 else 28)
  else if month = 4 ∨ month = 6 ∨ month = 9 ∨ month = 11 then 30
  else 31

/-- The date of a date-time, if it has one. -/
def Datetime.date? : Datetime → Option Date
  | .date d | .both d _ _ => some d
  | .time _ => none

/-- Whether the month of the date has the day. -/
def Date.inCalendar (d : Date) : Bool := d.day ≤ daysIn d.year d.month

/-- Whether the date, if there is one, is a day of the calendar. -/
def Datetime.inCalendar (d : Datetime) : Bool := d.date?.all Date.inCalendar

end GuestDisks.Toml
