/-!
# Decimal numerals

The decimal numeral of a natural number (`digits`) and the number that a string of digits
denotes (`value`), with the text of an integer (`ofInt`). A numeral has no leading zero, save
that of zero itself.
-/

namespace GuestDisks.Decimal

/-- The character of one decimal digit. -/
def digitChar (d : Nat) : Char := Char.ofNat (48 + d)

/-- The decimal digits of a number, most significant first. -/
def digits (n : Nat) : List Char :=
  if n < 10 then [digitChar n] else digits (n / 10) ++ [digitChar (n % 10)]
termination_by n

/-- Whether a character is one of the ten ASCII digits. -/
def isDigit (c : Char) : Bool := '0' ≤ c && c ≤ '9'

/-- The number that one digit stands for. -/
def digitValue (c : Char) : Nat := c.toNat - 48

/-- The number that a string of digits denotes, leading zeros allowed. -/
def value (cs : List Char) : Nat := cs.foldl (fun n c => 10 * n + digitValue c) 0

/-- The numeral of a natural number as text. -/
def ofNat (n : Nat) : String := String.ofList (digits n)

/-- The numeral of an integer: a minus sign before the numeral of a negative one. -/
def ofInt : Int → String
  | .ofNat n => ofNat n
  | .negSucc n => "-" ++ ofNat (n + 1)

/-- A string of digits padded with zeros on the left to a width. -/
def padded (width n : Nat) : List Char :=
  let ds := digits n
  List.replicate (width - ds.length) '0' ++ ds

end GuestDisks.Decimal
