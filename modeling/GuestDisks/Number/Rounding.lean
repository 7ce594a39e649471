import GuestDisks.Number.Binary64
import GuestDisks.Number.Decimal

/-!
# Rounding to double precision

The double nearest to an exact quotient (`ofQuotient`), ties going to the even significand, and
what follows from it: the doubles nearest to an integer, to a decimal and to the product or the
quotient of two finite doubles.
-/

namespace GuestDisks.Binary64

/-- The integer nearest to `a / b`; a half goes to the even neighbour. -/
def nearestInt (a b : Nat) : Nat :=
  let q := a / b
  let r := a % b
  if 2 * r < b then q else if b < 2 * r then q + 1 else q + q % 2

/-- Numerator and denominator of `(a / b) / 2 ^ q`. -/
def scaled (a b : Nat) (q : Int) : Nat × Nat :=
  if 0 ≤ q then (a, b * Nat.pow 2 q.toNat) else (a * Nat.pow 2 (-q).toNat, b)

/-- The double with significand `n` at most `2 ^ 53` and power `q`; infinite if out of range.
A significand below `2 ^ 52` belongs to the least power, that of the subnormal numbers. -/
def assemble (negative : Bool) (n : Nat) (q : Int) : Binary64 :=
  let (n, q) := if n < 0x20000000000000 then (n, q) else (n / 2, q + 1)
  if n < 0x10000000000000 then ofFields negative 0 n
  else
    let e := (q + 1075).toNat
    if e < 2047 then ofFields negative e (n - 0x10000000000000) else infinity negative

/-- The double nearest to `a / b`, for `b ≠ 0`. -/
def ofQuotient (negative : Bool) (a b : Nat) : Binary64 :=
  if a = 0 then zeroOf negative
  else
    -- `a / b` lies between `2 ^ (l - 1)` and `2 ^ (l + 1)`, so one of two powers is right.
    let l : Int := (a.log2 : Int) - b.log2
    let q₀ := max (l - 52) (-1074)
    let (a₀, b₀) := scaled a b q₀
    let q := if a₀ < b₀ * 0x10000000000000 ∧ -1074 < q₀ then q₀ - 1 else q₀
    let (a₁, b₁) := scaled a b q
    assemble negative (nearestInt a₁ b₁) q

/-- The double nearest to an integer. -/
def ofInt : Int → Binary64
  | .ofNat n => ofQuotient false n 1
  | .negSucc n => ofQuotient true (n + 1) 1

/-- The double nearest to `m * 10 ^ e`. Far outside the range the answer is known without
computing the power. -/
def ofDecimal (negative : Bool) (m : Nat) (e : Int) : Binary64 :=
  if m = 0 then zeroOf negative
  else
    let size : Int := (Decimal.digits m).length + e
    if 400 < size then infinity negative
    else if size < -400 then zeroOf negative
    else if 0 ≤ e then ofQuotient negative (m * Nat.pow 10 e.toNat) 1
    else ofQuotient negative m (Nat.pow 10 (-e).toNat)

/-- Numerator and denominator of a finite magnitude. -/
def magnitude (x : Binary64) : Nat × Nat :=
  if 0 ≤ x.power then (x.significand * Nat.pow 2 x.power.toNat, 1)
  else (x.significand, Nat.pow 2 (-x.power).toNat)

/-- The product of two finite doubles, rounded. -/
def product (x y : Binary64) : Binary64 :=
  ofQuotient (x.negative != y.negative) (x.magnitude.1 * y.magnitude.1)
    (x.magnitude.2 * y.magnitude.2)

/-- The quotient of two finite doubles, rounded, for a divisor other than zero. -/
def quotient (x y : Binary64) : Binary64 :=
  ofQuotient (x.negative != y.negative) (x.magnitude.1 * y.magnitude.2)
    (x.magnitude.2 * y.magnitude.1)

/-- Whether a finite number is whole. -/
def isWhole (x : Binary64) : Bool := x.magnitude.1 % x.magnitude.2 == 0

end GuestDisks.Binary64
