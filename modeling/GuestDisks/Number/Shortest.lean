import GuestDisks.Number.Rounding

/-!
# The fewest digits that read back

A finite double stands for the interval of reals that round to it, ends included exactly when
its significand is even. `shortest` gives the fewest decimal digits that name a real of that
interval, and among those the digits nearest to the number itself. It tries grids of one digit,
two digits and so on: if any point of a grid lies in the interval, so does one of the two
neighbours of the number on that grid. Seventeen digits always suffice.
-/

namespace GuestDisks.Binary64

/-- Which of two equally near candidates is taken. -/
inductive Tie
  | even
  | up

/-- The decimal `digits * 10 ^ scale`. -/
structure Digits where
  digits : Nat
  scale : Int

/-- The exponent `e` with `10 ^ e ≤ a / b < 10 ^ (e + 1)`, for `a` and `b` other than zero. -/
def decimalExponent (a b : Nat) : Int :=
  if b ≤ a then (Decimal.digits (a / b)).length - 1
  else -((Decimal.digits ((b + a - 1) / a - 1)).length : Int)

/-- The ends of the interval of reals that round to a positive double, over a common
denominator: four times the significand, less and more half the gap to the neighbours. -/
def bounds (x : Binary64) : Nat × Nat × Nat :=
  let (a, b) := x.magnitude
  let m := x.significand
  let unit := a / m
  let below := if m = 0x10000000000000 ∧ 1 < x.exponent.val then unit else 2 * unit
  (4 * a - below, 4 * a + 2 * unit, 4 * b)

/-- Whether the decimal `d * 10 ^ k` reads back as the double with these bounds. -/
def within (closed : Bool) (low high den : Nat) (d : Nat) (k : Int) : Bool :=
  let (n, m) := if 0 ≤ k then (d * Nat.pow 10 k.toNat, 1) else (d, Nat.pow 10 (-k).toNat)
  if closed then low * m ≤ n * den && n * den ≤ high * m
  else low * m < n * den && n * den < high * m

/-- The candidate of the grid `10 ^ k`: the nearer of the number's neighbours that read back. -/
def onGrid (tie : Tie) (x : Binary64) (k : Int) : Option Digits :=
  let (a, b) := x.magnitude
  let (low, high, den) := x.bounds
  let (n, m) := if 0 ≤ k then (a, b * Nat.pow 10 k.toNat) else (a * Nat.pow 10 (-k).toNat, b)
  let floor := n / m
  let rest := n % m
  let hit := within (x.significand % 2 == 0) low high den
  let first :=
    if 2 * rest < m then floor
    else if m < 2 * rest then floor + 1
    else match tie with
      | .even => floor + floor % 2
      | .up => floor + 1
  let second := if first = floor then floor + 1 else floor
  if hit first k then some ⟨first, k⟩
  else if hit second k then some ⟨second, k⟩
  else none

/-- The fewest digits that read back as a finite double other than zero, sign apart. On the
first grid the upper neighbour may be ten, which is one on the grid above. -/
def shortest (tie : Tie) (x : Binary64) : Digits :=
  let (a, b) := x.magnitude
  let e := decimalExponent a b
  let found := ((List.range 17).findSome? fun (n : Nat) => onGrid tie x (e - n)).getD ⟨a / b, 0⟩
  if found.digits = 10 then ⟨1, found.scale + 1⟩ else found

end GuestDisks.Binary64
