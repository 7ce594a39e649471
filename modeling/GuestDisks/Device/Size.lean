import GuestDisks.Number.Decimal
import GuestDisks.Text.DecimalDigit
import GuestDisks.Text.Quoted

/-!
# Disk sizes

Sizes are counted in kibibytes. Users write them as a positive number with a unit letter `K`, `M`,
`G` or `T`; the letters look decimal but stand for binary multiples, and a bare number counts
gibibytes. `Size.parse` reads such a text, giving zero for any other and for one out of range;
`Size.format` writes a size with the largest unit that divides it.
-/

namespace GuestDisks

namespace Size

/-- The units of size texts. -/
inductive Scale
  | kibi
  | mebi
  | gibi
  | tebi
  deriving DecidableEq

/-- The number of kibibytes of a unit. -/
def Scale.kibibytes : Scale → Nat
  | .kibi => 1
  | .mebi => 1024
  | .gibi => 1024 * 1024
  | .tebi => 1024 * 1024 * 1024

/-- The letter of a unit. -/
def Scale.letter : Scale → Char
  | .kibi => 'K'
  | .mebi => 'M'
  | .gibi => 'G'
  | .tebi => 'T'

/-- The unit of a letter. -/
def Scale.ofLetter? : Char → Option Scale
  | 'K' => some .kibi
  | 'M' => some .mebi
  | 'G' => some .gibi
  | 'T' => some .tebi
  | _ => none

/-- The digits of a size text and its unit: the last character if it is a unit letter. -/
def split (cs : List Char) : List Char × Scale :=
  match cs.getLast?.bind Scale.ofLetter? with
  | some scale => (cs.dropLast, scale)
  | none => (cs, .gibi)

/-- The grammar of size texts: a digit from 1 to 9, any further decimal digits, and at most one
unit letter. The further digits may be of any script; only ASCII ones can be read. -/
def isWellFormed (s : String) : Bool :=
  match (split s.toList).1 with
  | [] => false
  | d :: ds => '1' ≤ d && d ≤ '9' && ds.all Text.isDecimalDigit

/-- A decimal numeral below `2 ^ 64`. -/
def readWord (cs : List Char) : Option Nat :=
  if !cs.isEmpty && cs.all Decimal.isDigit && decide (Decimal.value cs < UInt64.size) then
    some (Decimal.value cs)
  else none

/-- The number of kibibytes of a size text; zero if the text is not one or means `2 ^ 64` or
more. -/
def parse (s : String) : UInt64 :=
  if isWellFormed s then
    let (digits, scale) := split s.toList
    match readWord digits with
    | some n =>
      if n * scale.kibibytes < UInt64.size then UInt64.ofNat (n * scale.kibibytes) else 0
    | none => 0
  else 0

/-- The largest unit that divides a number of kibibytes. -/
def scaleOf (kib : UInt64) : Scale :=
  if kib.toNat % Scale.tebi.kibibytes = 0 then .tebi
  else if kib.toNat % Scale.gibi.kibibytes = 0 then .gibi
  else if kib.toNat % Scale.mebi.kibibytes = 0 then .mebi
  else .kibi

/-- The text of a number of kibibytes. -/
def format (kib : UInt64) : String :=
  let scale := scaleOf kib
  String.ofList (Decimal.digits (kib.toNat / scale.kibibytes) ++ [scale.letter])

end Size

/-- A disk size, in kibibytes. -/
structure DiskSize where
  kib : UInt64
  deriving DecidableEq

namespace DiskSize

/-- A text that is no disk size. -/
structure Unreadable where
  text : String
  deriving DecidableEq

def Unreadable.message (e : Unreadable) : String :=
  "invalid disk size " ++ Text.quote e.text ++
    ": expected a positive integer with an optional K, M, G or T suffix"

/-- The size that a text stands for. Zero is none. -/
def ofText (s : String) : Except Unreadable DiskSize :=
  if Size.parse s = 0 then .error ⟨s⟩ else .ok ⟨Size.parse s⟩

/-- The text of a size. -/
def text (size : DiskSize) : String := Size.format size.kib

end DiskSize

end GuestDisks
