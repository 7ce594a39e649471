/-!
# Text without control sequences

A message for a terminal repeats what the user wrote as plain text (`plain`): the control sequences
of a terminal are left out, and so is every control character that is not a blank. A blank may
interrupt a sequence. It is shown with what follows it, up to the next character that is left out;
from there on the sequence continues.
-/

namespace GuestDisks.Text

/-- How far a control sequence has come. -/
inductive Control
  /-- There is none. -/
  | outside
  /-- After the escape character. -/
  | escape
  /-- In an escape sequence of several characters. -/
  | intermediate
  /-- Among the parameters of a control sequence. -/
  | parameters
  /-- Before the contents of a device control string. -/
  | device
  /-- In a string for the terminal. -/
  | contents
  /-- In an operating system command. -/
  | command
  deriving DecidableEq

/-- Whether a control character is a blank. -/
def isControlBlank (c : Char) : Bool := c == '\t' || c == '\n' || c == '\x0c' || c == '\r'

/-- Whether a character is shown outside control sequences. -/
def isPlain (c : Char) : Bool :=
  isControlBlank c || (0x20 ≤ c.toNat && c.toNat < 0x7f) || 0x80 ≤ c.toNat

/-- Whether a character ends a string for the terminal: the byte 9C does, also within UTF-8. -/
def endsContents (c : Char) : Bool := 0x80 ≤ c.toNat && (String.utf8EncodeChar c).contains 0x9c

/-- What begins with the character after the escape character. -/
def Control.ofIntroducer (c : Char) : Control :=
  if c = '[' then .parameters
  else if c = ']' then .command
  else if c = 'P' then .device
  else if c = 'X' ∨ c = '^' ∨ c = '_' then .contents
  else if c.toNat < 0x30 then .intermediate
  else .outside

/-- Where a character leads in a control sequence, the characters that begin or cancel one apart. -/
def Control.continued (c : Char) : Control → Control
  | .outside => .outside
  | .escape => if 0x20 ≤ c.toNat && c.toNat < 0x7f then .ofIntroducer c else .escape
  | .intermediate => if 0x30 ≤ c.toNat && c.toNat < 0x7f then .outside else .intermediate
  | .parameters => if 0x40 ≤ c.toNat && c.toNat < 0x7f then .outside else .parameters
  | .device => if 0x40 ≤ c.toNat && c.toNat < 0x7f then .contents else .device
  | .contents => if endsContents c then .outside else .contents
  | .command => if c = '\x07' then .outside else .command

/-- Where a character leads. The escape character begins a sequence, and two others cancel it. -/
def Control.after (q : Control) (c : Char) : Control :=
  if c = '\x1b' then .escape
  else if c = '\x18' ∨ c = '\x1a' then .outside
  else q.continued c

/-- Whether a character is shown where a sequence has come so far. -/
def Control.shows (c : Char) : Control → Bool
  | .outside => isPlain c
  | .escape | .intermediate | .parameters => isControlBlank c
  | .device | .contents | .command => false

/-- The characters that are shown, after a sequence that has come to `q` and may be interrupted. -/
def plainAfter : Control → Bool → List Char → List Char
  | _, _, [] => []
  | q, interrupted, c :: cs =>
    if interrupted && isPlain c then
      c :: plainAfter (if 0x80 ≤ c.toNat then .outside else q) true cs
    else if q.shows c then c :: plainAfter (q.after c) true cs
    else plainAfter (q.after c) false cs

/-- A text without its control sequences. -/
def plain (s : String) : String := String.ofList (plainAfter .outside false s.toList)

end GuestDisks.Text
