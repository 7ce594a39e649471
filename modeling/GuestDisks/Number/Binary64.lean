/-!
# Double-precision numbers

A double as its three fields: sign, biased exponent and fraction. Throughput limits are read,
compared with zero and with each other, and written; no arithmetic is done on them, so the
fields are all that is needed. `agrees` is the equality of numbers (`-0.0` agrees with `0.0`,
and no not-a-number agrees with anything); `=` is the equality of representations.
-/

namespace GuestDisks

/-- A double-precision number, by its fields. -/
structure Binary64 where
  negative : Bool
  exponent : Fin 2048
  /-- The 52 bits after the leading one. -/
  fraction : Fin 0x10000000000000
  deriving DecidableEq

namespace Binary64

/-- The number with the fields given, each taken modulo its range. -/
def ofFields (negative : Bool) (exponent fraction : Nat) : Binary64 :=
  ⟨negative, Fin.ofNat _ exponent, Fin.ofNat _ fraction⟩

/-- Zero, with the sign given. -/
def zeroOf (negative : Bool) : Binary64 := ⟨negative, 0, 0⟩

/-- Zero without a sign, the value of an absent limit. -/
def zero : Binary64 := zeroOf false

/-- Infinity, with the sign given. -/
def infinity (negative : Bool) : Binary64 := ⟨negative, 2047, 0⟩

/-- Not a number, with the sign given. -/
def nan (negative : Bool) : Binary64 := ⟨negative, 2047, 0x8000000000000⟩

instance : Inhabited Binary64 := ⟨zero⟩

/-- Whether the number is neither infinite nor not-a-number. -/
def isFinite (x : Binary64) : Bool := x.exponent != 2047

def isNaN (x : Binary64) : Bool := x.exponent == 2047 && x.fraction != 0

def isZero (x : Binary64) : Bool := x.exponent == 0 && x.fraction == 0

/-- Whether the number is less than zero. -/
def isBelowZero (x : Binary64) : Bool := x.negative && !x.isNaN && !x.isZero

/-- The number with the other sign. -/
def neg (x : Binary64) : Binary64 := { x with negative := !x.negative }

/-- The equality of numbers: both zeros agree, and no not-a-number agrees with anything. -/
def agrees (x y : Binary64) : Bool :=
  !x.isNaN && !y.isNaN && (x == y || (x.isZero && y.isZero))

instance : BEq Binary64 := ⟨agrees⟩

/-- A finite magnitude is `significand * 2 ^ power`. -/
def significand (x : Binary64) : Nat :=
  if x.exponent = 0 then x.fraction else 0x10000000000000 + x.fraction

/-- A finite magnitude is `significand * 2 ^ power`. -/
def power (x : Binary64) : Int := max (x.exponent : Int) 1 - 1075

end Binary64

end GuestDisks
