import GuestDisks.Number.Shortest

/-!
# The layout of a decimal

How the digits of a double are set down: which exponents are written positionally, whether a
whole number keeps a fraction, which of two equally near digits is taken, and the words for what
is not a number. Each kind of output has one `Layout`.
-/

namespace GuestDisks

/-- The decisions of one written form of doubles. -/
structure Layout where
  /-- The exponents of ten written without an exponent part; all of them if absent. -/
  positional : Option (Int × Int)
  /-- Whether a whole number is written with `.0`. -/
  keepsFraction : Bool
  tie : Binary64.Tie
  infinity : String
  nan : String
  /-- Whether the sign of a not-a-number is written. -/
  signsNaN : Bool

namespace Layout

/-- Digits with the point after the first `point` of them; zeros fill what is missing. -/
def positionalText (keepsFraction : Bool) (ds : List Char) (scale : Int) : List Char :=
  if 0 ≤ scale then
    ds ++ List.replicate scale.toNat '0' ++ (if keepsFraction then ['.', '0'] else [])
  else
    let places := (-scale).toNat
    let ds := List.replicate (places + 1 - ds.length) '0' ++ ds
    ds.take (ds.length - places) ++ '.' :: ds.drop (ds.length - places)

/-- One digit, the others after a point, then the signed exponent of ten. -/
def exponentText (ds : List Char) (e : Int) : List Char :=
  let sign := if e < 0 then '-' else '+'
  ds.take 1 ++ (if ds.length ≤ 1 then [] else '.' :: ds.drop 1) ++
    'e' :: sign :: Decimal.digits e.natAbs

/-- The text of a double. -/
def write (layout : Layout) (x : Binary64) : String :=
  let sign := if x.negative then "-" else ""
  if x.isNaN then (if layout.signsNaN then sign else "") ++ layout.nan
  else if !x.isFinite then sign ++ layout.infinity
  else if x.isZero then sign ++ (if layout.keepsFraction then "0.0" else "0")
  else
    let found := x.shortest layout.tie
    let ds := Decimal.digits found.digits
    let e : Int := ds.length - 1 + found.scale
    let plain := match layout.positional with
      | none => true
      | some (low, high) => low ≤ e && e ≤ high
    sign ++ String.ofList (if plain then positionalText layout.keepsFraction ds found.scale
      else exponentText ds e)

end Layout

end GuestDisks
