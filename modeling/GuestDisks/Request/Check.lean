import GuestDisks.Number.Layout
import GuestDisks.Report
import GuestDisks.Request.Fields

/-!
# Checks of fields

What each field may hold. A check gives the value that a text stands for or the problem with it;
where a field may be absent, the empty text stands for its default. `sameSize` and `sameFormat`
say when two texts ask for the same thing.
-/

namespace GuestDisks.Check

/-- A size in kibibytes. -/
def size (raw : String) : Except Problem DiskSize :=
  (DiskSize.ofText raw).mapError fun _ => .invalidValue "size" raw
    "expected a positive integer with an optional K, M, G or T suffix"

/-- An image format; the default is raw. -/
def format (raw : String) : Except Problem ImageFormat :=
  if raw = "" then .ok .raw
  else match ofLabel? ImageFormat.label ImageFormat.all raw with
    | some f => .ok f
    | none => .error (.invalidValue "format" raw
        "expected one of raw, cow, qcow, qed, qcow2, vmdk, cloop")

/-- A cache mode; the default is that of the host. -/
def cache (raw : String) : Except Problem (Option CacheMode) :=
  if raw = "" then .ok none
  else match ofLabel? CacheMode.label CacheMode.all raw with
    | some c => .ok (some c)
    | none => .error (.invalidValue "cache" raw
        "expected one of none, directsync, unsafe, writeback, writethrough")

/-- An engine for asynchronous input and output; the default is that of the host. -/
def engine (raw : String) : Except Problem (Option IoEngine) :=
  if raw = "" then .ok none
  else match ofLabel? IoEngine.label IoEngine.all raw with
    | some e => .ok (some e)
    | none => .error (.invalidValue "asyncio" raw "expected one of native, threads, io_uring")

/-- The characters of serial numbers. -/
def isSerialChar (c : Char) : Bool :=
  ('A' ≤ c && c ≤ 'Z') || ('a' ≤ c && c ≤ 'z') || ('0' ≤ c && c ≤ '9') || c == '_' || c == '-'

/-- Whether a text is a serial number: one to sixty letters, digits, hyphens and underscores. -/
def isSerial (raw : String) : Bool :=
  raw.toList.length ≤ 60 && raw != "" && raw.toList.all isSerialChar

/-- A serial number, kept as it is. -/
def serial (raw : String) : Except Problem (Option String) :=
  if raw = "" then .ok none
  else if isSerial raw then .ok (some raw)
  else .error (.invalidValue "serial" raw
    "expected at most 60 characters from A-Z, a-z, 0-9, - and _")

/-- Hexadecimal digits of either case. -/
def isHexDigit (c : Char) : Bool :=
  ('0' ≤ c && c ≤ '9') || ('a' ≤ c && c ≤ 'f') || ('A' ≤ c && c ≤ 'F')

/-- Whether a text is a world wide name: `0x` and sixteen hexadecimal digits. -/
def isWwn (raw : String) : Bool :=
  match raw.toList with
  | '0' :: 'x' :: ds => ds.length == 16 && ds.all isHexDigit
  | _ => false

/-- A world wide name, kept as it is. -/
def wwn (raw : String) : Except Problem (Option String) :=
  if raw = "" then .ok none
  else if isWwn raw then .ok (some raw)
  else .error (.invalidValue "wwn" raw "expected 0x followed by 16 hexadecimal digits")

/-- The texts before and after the first colon. -/
def splitColon : List Char → Option (List Char × List Char)
  | [] => none
  | c :: cs =>
    if c = ':' then some ([], cs) else (splitColon cs).map fun p => (c :: p.1, p.2)

/-- The storage pool and the path of an image. -/
def iso (raw : String) : Except Problem (String × String) :=
  match splitColon raw.toList with
  | some (s :: ss, f :: fs) => .ok (String.ofList (s :: ss), String.ofList (f :: fs))
  | _ => .error (.invalidValue "iso" raw "expected <storage>:<path>, e.g. local:iso/image.iso")

/-- How messages show a double: all digits, and no fraction for a whole number. -/
def reals : Layout where
  positional := none
  keepsFraction := false
  tie := .up
  infinity := "inf"
  nan := "NaN"
  signsNaN := false

/-- A throughput must be finite and not below zero. -/
def throughput (e : String × Binary64) : Except Problem Unit :=
  if !e.2.isFinite || e.2.isBelowZero then
    .error (.invalidValue e.1 (reals.write e.2) "expected a non-negative number")
  else .ok ()

/-- A rate must fit 32 bits. -/
def rate (e : String × Int) : Except Problem Unit :=
  if 0 ≤ e.2 ∧ e.2 ≤ 0xffffffff then .ok ()
  else .error (.invalidValue e.1 (Decimal.ofInt e.2) "expected an integer from 0 to 4294967295")

/-- The limits of a disk; the problem is that of the first bad key. -/
def limits (f : FlatLimits Int) : Except Problem Limits := do
  f.throughputs.forM throughput
  f.rates.forM rate
  return (f.mapRates fun n => UInt32.ofNat n.toNat).grouped

/-- Whether two texts ask for the same size. Texts that ask for none are the same only if equal. -/
def sameSize (old new : String) : Bool :=
  old == new ||
    (Size.isWellFormed old && Size.isWellFormed new && Size.parse old == Size.parse new)

/-- Whether two texts ask for the same format. -/
def sameFormat (old new : String) : Bool :=
  match format old, format new with
  | .ok a, .ok b => a == b
  | _, _ => old == new

end GuestDisks.Check
