import GuestDisks.Data.Reader
import GuestDisks.Toml.Basic

/-!
# Values as they are kept

What no part of a document takes is kept as a value (`Value.kept`). A kept table is in the order of
its keys, and a kept date-time has a day of the calendar. Since a date-time shows itself as a table
with a key of its own, a table that begins with that key is the date-time that it spells, and no
value at all if it spells none. `Table.isSound` asks whether every value of a table could be kept.
-/

namespace GuestDisks.Toml

open Data

/-- What a month allows, for the message about a day that it does not have. -/
def daysAllowed (d : Date) : String := "day between 01 and " ++ Decimal.ofNat (daysIn d.year d.month)

/-- A date-time with a day of the calendar. -/
def Datetime.checked (d : Datetime) : Except Fault Datetime :=
  match d.date? with
  | some day =>
    if day.inCalendar then .ok d
    else .error (.refused ("invalid date, expected " ++ daysAllowed day))
  | none => .ok d

namespace Value

/-- The date-time that a value spells as a text. -/
def spelled : Reader Value Datetime := fun v =>
  match v with
  | .string s =>
    match Datetime.ofText? s with
    | some d => d.checked
    | none => .error (.refused "invalid datetime")
  | v => .error (mismatch v "string containing a datetime")

/-- The spelling of a date-time at the beginning of a table, and the number of entries after it. -/
def leadingSpelling? : Table → Option (Value × Nat)
  | (key, v) :: es => if key = datetimeKey then some (v, es.length) else none
  | [] => none

mutual

/-- The value that is kept. If `alone`, nothing may follow a spelled date-time in its table, else
what follows it is passed over. -/
def kept (alone : Bool) : Value → Except Fault Value
  | .datetime d => d.checked.map .datetime
  | .array items => (keptItems alone items).map .array
  | .table entries =>
    match leadingSpelling? entries with
    | some (v, others) => do
      let d ← spelled v
      if alone && others != 0 then .error (.invalidLength (others + 1) "1 element in map")
      else return .datetime d
    | none => (keptEntries alone entries).map .table
  | v => .ok v

def keptItems (alone : Bool) : List Value → Except Fault (List Value)
  | [] => .ok []
  | v :: vs => do
    let v ← kept alone v
    let vs ← keptItems alone vs
    return v :: vs

def keptEntries (alone : Bool) : List (String × Value) → Except Fault (List (String × Value))
  | [] => .ok []
  | (key, v) :: es => do
    let v ← kept alone v
    let es ← keptEntries alone es
    return insertEntry key v es

end

end Value

/-- Whether every value of a table could be kept. -/
def Table.isSound (t : Table) : Bool := t.all fun e => (e.2.kept false).isOk

end GuestDisks.Toml
