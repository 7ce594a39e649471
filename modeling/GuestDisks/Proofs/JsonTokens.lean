import GuestDisks.Json.Printer
import GuestDisks.Json.Reader
import GuestDisks.Proofs.Numeral
import Mathlib.Data.List.DropRight
import Mathlib.Data.List.TakeWhile

/-!
# JSON numbers and strings, printed and read

A number is read up to the text that ends it, so a number read by itself is read in the same way
within a longer text (`readNumber_append`). An integer of 64 bits is read from its numeral, and a
string from its characters, of which each is written as an escape letter, as its digits, or as it is
(`readString_chars`). Doubles are read back if their texts are (`IsReadBack`): the reader scales in
double precision, so not all are.
-/

namespace GuestDisks.Json

/-! ## Blanks and ends -/

/-- Blanks and nothing else. -/
def Blank (b : List Char) : Prop := ∀ c ∈ b, isBlank c = true

variable {b tail : List Char}

theorem skipBlanks_append (hb : Blank b) (cs : List Char) : skipBlanks (b ++ cs) = skipBlanks cs := by
  unfold skipBlanks
  rw [List.dropWhile_append_of_pos hb]

theorem skipBlanks_cons {c : Char} (hc : isBlank c = false) (cs : List Char) :
    skipBlanks (c :: cs) = c :: cs := by
  unfold skipBlanks
  rw [List.dropWhile_cons_of_neg (by simp [hc])]

theorem skipBlanks_skipBlanks (cs : List Char) : skipBlanks (skipBlanks cs) = skipBlanks cs :=
  List.dropWhile_idempotent _ cs

/-- Text that cannot be taken for a part of the value before it. -/
def Ends (tail : List Char) : Prop :=
  ∀ c cs, tail = c :: cs → c ∈ [',', ']', '\x7d'] ∨ isBlank c = true

/-- A comma or a closing bracket ends what is before it. -/
theorem Ends.cons {c : Char} (h : c ∈ [',', ']', '\x7d']) (cs : List Char) : Ends (c :: cs) := by
  intro d ds hd
  cases hd
  exact .inl h

theorem Ends.blank_append (hb : Blank b) (ht : Ends tail) : Ends (b ++ tail) := by
  intro c cs h
  cases b with
  | nil => exact ht c cs h
  | cons a b =>
    cases h
    exact .inr (hb c List.mem_cons_self)

theorem ends_nil : Ends [] := nofun

/-- What ends a value does not continue a number. -/
theorem Ends.not_number {c : Char} {cs : List Char} (h : Ends (c :: cs)) :
    Decimal.isDigit c = false ∧ c ∉ ['.', 'e', 'E'] := by
  rcases h c cs rfl with h | h
  · simp only [List.mem_cons, List.not_mem_nil, or_false] at h
    rcases h with rfl | rfl | rfl <;> decide
  · unfold isBlank at h
    simp only [Bool.or_eq_true, beq_iff_eq] at h
    rcases h with ((rfl | rfl) | rfl) | rfl <;> decide

/-! ## Numbers -/

/-- What ends a value has no part in its digits. -/
theorem digitsOf_append (ht : Ends tail) (cs : List Char) : digitsOf (cs ++ tail) = digitsOf cs := by
  unfold digitsOf
  induction cs with
  | nil =>
    cases tail with
    | nil => rfl
    | cons c tail => exact List.takeWhile_cons_of_neg (by simp [ht.not_number.1])
  | cons c cs ih =>
    rw [List.cons_append, List.takeWhile_cons, List.takeWhile_cons, ih]

theorem afterDigits_append (ht : Ends tail) (cs : List Char) :
    afterDigits (cs ++ tail) = afterDigits cs ++ tail := by
  unfold afterDigits
  induction cs with
  | nil =>
    cases tail with
    | nil => rfl
    | cons c tail => exact List.dropWhile_cons_of_neg (by simp [ht.not_number.1])
  | cons c cs ih =>
    rw [List.cons_append, List.dropWhile_cons, List.dropWhile_cons, ih]
    split <;> rfl

/-- The sign of an exponent and the text after it. -/
def exponentSign : List Char → Bool × List Char
  | '-' :: cs => (true, cs)
  | '+' :: cs => (false, cs)
  | cs => (false, cs)

theorem exponentSign_append (c : Char) (cs tail : List Char) : exponentSign (c :: cs ++ tail) =
    ((exponentSign (c :: cs)).1, (exponentSign (c :: cs)).2 ++ tail) := by
  by_cases hm : c = '-'
  · subst hm; rfl
  · by_cases hp : c = '+'
    · subst hp; rfl
    · have hnone : ∀ ds, exponentSign (c :: ds) = (false, c :: ds) := by
        intro ds
        unfold exponentSign
        split
        · rename_i h
          exact absurd (List.cons.inj h).1 hm
        · rename_i h
          exact absurd (List.cons.inj h).1 hp
        · rfl
      rw [List.cons_append, hnone, hnone]; rfl

/-- What ends a value has no part in its exponent. -/
theorem readExponent_append (ht : Ends tail) {cs rest : List Char} {e : Int}
    (h : readExponent cs = some (e, rest)) : readExponent (cs ++ tail) = some (e, rest ++ tail) := by
  cases cs with
  | nil => cases h
  | cons c cs =>
    have heq : ∀ cs, readExponent cs = if (digitsOf (exponentSign cs).2).isEmpty then none else
        some (if (exponentSign cs).1 then -(Decimal.value (digitsOf (exponentSign cs).2) : Int)
          else Decimal.value (digitsOf (exponentSign cs).2), afterDigits (exponentSign cs).2) :=
      fun _ => rfl
    rw [heq] at h ⊢
    rw [exponentSign_append]
    simp only [digitsOf_append ht, afterDigits_append ht]
    split at h
    · cases h
    · rename_i hne
      rw [if_neg hne]
      cases h; rfl

/-- The digits after a point, if there is one, and the text after them. -/
def fractionOf : List Char → Option (List Char) × List Char
  | '.' :: cs => (if (digitsOf cs).isEmpty then none else some (digitsOf cs), afterDigits cs)
  | cs => (some [], cs)

/-- A number whose digits are read, up to its exponent. -/
def finishNumber (negative : Bool) (whole : List Char) :
    Option (List Char) → List Char → Draft × Option (List Char)
  | none, _ => (.broken, none)
  | some fraction, c :: cs =>
    if c = 'e' ∨ c = 'E' then
      match readExponent cs with
      | none => (.broken, none)
      | some (e, cs) => (numberOf negative whole fraction true e, some cs)
    else (numberOf negative whole fraction false 0, some (c :: cs))
  | some fraction, [] => (numberOf negative whole fraction false 0, some [])

/-- A number is its digits, which must not begin with a zero before others, then its fraction and its
exponent. -/
theorem readNumber_eq (negative : Bool) (cs : List Char) : readNumber negative cs =
    if (digitsOf cs).isEmpty || ((digitsOf cs).head? == some '0' && 1 < (digitsOf cs).length) then
      (.broken, none)
    else finishNumber negative (digitsOf cs) (fractionOf (afterDigits cs)).1 (fractionOf (afterDigits cs)).2 :=
  rfl

theorem fractionOf_of_ne {c : Char} (h : c ≠ '.') (cs : List Char) :
    fractionOf (c :: cs) = (some [], c :: cs) := by
  unfold fractionOf
  split
  · rename_i he
    exact absurd (List.cons.inj he).1 h
  · rfl

/-- What ends a value has no part in its fraction. -/
theorem fractionOf_append (ht : Ends tail) (cs : List Char) :
    fractionOf (cs ++ tail) = ((fractionOf cs).1, (fractionOf cs).2 ++ tail) := by
  cases cs with
  | nil =>
    cases tail with
    | nil => rfl
    | cons c tail =>
      have hc : c ≠ '.' := fun he => ht.not_number.2 (he ▸ List.mem_cons_self)
      exact fractionOf_of_ne hc tail
  | cons c cs =>
    by_cases hc : c = '.'
    · subst hc
      show (if (digitsOf (cs ++ tail)).isEmpty then none else some (digitsOf (cs ++ tail)),
        afterDigits (cs ++ tail)) = _
      rw [digitsOf_append ht, afterDigits_append ht]; rfl
    · rw [List.cons_append, fractionOf_of_ne hc, fractionOf_of_ne hc]; rfl

theorem finishNumber_append (ht : Ends tail) {negative : Bool} {whole cs rest : List Char}
    {fraction : Option (List Char)} {d : Draft}
    (h : finishNumber negative whole fraction cs = (d, some rest)) :
    finishNumber negative whole fraction (cs ++ tail) = (d, some (rest ++ tail)) := by
  cases fraction with
  | none => cases h
  | some fraction =>
    cases cs with
    | nil =>
      -- the number is read to its end, and what follows must not be taken for its exponent
      cases h
      cases tail with
      | nil => rfl
      | cons c tail =>
        have hc : ¬ (c = 'e' ∨ c = 'E') := by
          rintro (rfl | rfl)
          · exact ht.not_number.2 (by decide)
          · exact ht.not_number.2 (by decide)
        exact if_neg hc
    | cons c cs =>
      unfold finishNumber at h
      show (if c = 'e' ∨ c = 'E' then _ else _) = _
      by_cases hc : c = 'e' ∨ c = 'E'
      · simp only [if_pos hc] at h ⊢
        cases he : readExponent cs with
        | none => rw [he] at h; cases h
        | some r =>
          obtain ⟨e, rest'⟩ := r
          rw [he] at h
          rw [show readExponent (cs.append tail) = _ from readExponent_append ht he]
          cases h; rfl
      · simp only [if_neg hc] at h ⊢
        cases h; rfl

/-- **What ends a number is left when the number was read.** -/
theorem readNumber_append (ht : Ends tail) {negative : Bool} {cs rest : List Char} {d : Draft}
    (h : readNumber negative cs = (d, some rest)) :
    readNumber negative (cs ++ tail) = (d, some (rest ++ tail)) := by
  rw [readNumber_eq] at h ⊢
  rw [digitsOf_append ht, afterDigits_append ht, fractionOf_append ht]
  split at h
  · cases h
  · rename_i hwhole
    rw [if_neg hwhole]
    exact finishNumber_append ht h

/-! ## Integers -/

theorem digitsOf_digits (n : Nat) : digitsOf (Decimal.digits n) = Decimal.digits n :=
  List.takeWhile_eq_self_iff.2 fun _ h => Decimal.isDigit_of_mem_digits h

theorem afterDigits_digits (n : Nat) : afterDigits (Decimal.digits n) = [] :=
  List.dropWhile_eq_nil_iff.2 fun _ h => Decimal.isDigit_of_mem_digits h

/-- The digits of a number are read as a whole number. -/
theorem readNumber_digits (negative : Bool) (n : Nat) : readNumber negative (Decimal.digits n) =
    (numberOf negative (Decimal.digits n) [] false 0, some []) := by
  have hne : (Decimal.digits n).isEmpty = false := by simp [Decimal.digits_ne_nil]
  have hzero : ((Decimal.digits n).head? == some '0' && decide (1 < (Decimal.digits n).length)) = false := by
    by_cases hn : n = 0
    · subst hn
      rw [Decimal.digits_of_lt (by omega)]; rfl
    · obtain ⟨d, hpos, hlt, hd⟩ := Decimal.head?_digits hn
      have hd0 : Decimal.digitChar d ≠ '0' := by
        intro h
        have hval := Decimal.digitValue_digitChar hlt
        rw [h] at hval
        exact absurd hval.symm (by simpa [Decimal.digitValue] using Nat.ne_of_gt hpos)
      simp [hd, hd0]
  rw [readNumber_eq, digitsOf_digits, afterDigits_digits, hne, hzero]
  rfl

/-- An integer that fits 64 bits, with or without a sign. -/
def FitsWord (n : Int) : Prop := -0x8000000000000000 ≤ n ∧ n < 0x10000000000000000

/-- Digits below 2 to the power of 64 are an integer. -/
theorem numberOf_digits {n : Nat} (h : n < 0x10000000000000000) :
    numberOf false (Decimal.digits n) [] false 0 = .integer n := by
  unfold numberOf
  simp only [Decimal.value_digits]
  simp [h]

/-- So are those of a negative number that fits a signed word. -/
theorem numberOf_digits_neg {n : Nat} (h : 0 < n) (h' : n ≤ 0x8000000000000000) :
    numberOf true (Decimal.digits n) [] false 0 = .integer (-n) := by
  unfold numberOf
  simp only [Decimal.value_digits]
  simp [h, h']

/-! ## Strings -/

theorem hexValue?_digitChar : ∀ m < 16, hexValue? (Nat.digitChar m) = some m := by decide

/-- A control character is read from its four digits. -/
theorem readHex4_escape {n : Nat} (h : n < 0x20) (cs : List Char) :
    readHex4 ('0' :: '0' :: Nat.digitChar (n / 16) :: Nat.digitChar (n % 16) :: cs) = some (n, cs) := by
  have hhigh := hexValue?_digitChar (n / 16) (by omega)
  have hlow := hexValue?_digitChar (n % 16) (by omega)
  have hsum : (((0 * 16 + 0) * 16 + n / 16) * 16 + n % 16) = n := by omega
  show (do
    let c ← hexValue? (Nat.digitChar (n / 16))
    let d ← hexValue? (Nat.digitChar (n % 16))
    return (((0 * 16 + 0) * 16 + c) * 16 + d, cs)) = _
  rw [hhigh, hlow]
  show some ((((0 * 16 + 0) * 16 + n / 16) * 16 + n % 16), cs) = _
  rw [hsum]

/-- What is read with a character in front. -/
def withChar (c : Char) (r : Option (Option (List Char) × List Char)) : Option (Option (List Char) × List Char) :=
  r.map fun r => (r.1.map (c :: ·), r.2)

/-- A character that needs no escape is read as itself. -/
theorem readString_plain {c : Char} (hb : c ≠ '\\') (hq : c ≠ '\x22') (hc : ¬ c.toNat < 0x20) (fuel : Nat)
    (cs : List Char) : readString (fuel + 1) (c :: cs) = withChar c (readString fuel cs) := by
  rw [readString]
  · rw [if_neg hc]
    cases readString fuel cs <;> rfl
  · intro cs' h
    exact absurd h hb
  · intro e cs' h
    exact absurd h hb
  · exact hq

/-- A character with a short escape is read from it. -/
theorem readString_escape {e c : Char} (h : escaped? e = some c) (fuel : Nat) (cs : List Char) :
    readString (fuel + 1) ('\\' :: e :: cs) = withChar c (readString fuel cs) := by
  have hu : e ≠ 'u' := by
    rintro rfl
    cases h
  rw [readString]
  · rw [h]
    cases readString fuel cs <;> rfl
  · exact hu

/-- A character below the surrogates is read from its four hexadecimal digits. -/
theorem readString_hex {n : Nat} {ds cs : List Char} (h : readHex4 ds = some (n, cs)) (hn : n < 0xD800)
    (fuel : Nat) :
    readString (fuel + 1) ('\\' :: 'u' :: ds) = withChar (Char.ofNat n) (readString fuel cs) := by
  have hhigh : ¬ (0xD800 ≤ n ∧ n < 0xDC00) := by omega
  have hlow : ¬ (0xDC00 ≤ n ∧ n < 0xE000) := by omega
  rw [readString, h]
  simp only [Option.bind_eq_bind, Option.bind_some, if_neg hhigh, if_neg hlow]
  cases readString fuel cs <;> rfl

theorem readString_quote (fuel : Nat) (cs : List Char) :
    readString (fuel + 1) ('\x22' :: cs) = some (some [], cs) := rfl

/-- A character is written as an escape letter, as its digits, or as it is. -/
theorem escapeChar_cases (c : Char) :
    (∃ e, escaped? e = some c ∧ escapeChar c = ['\\', e]) ∨
    (c.toNat < 0x20 ∧ escapeChar c =
      ['\\', 'u', '0', '0', Nat.digitChar (c.toNat / 16), Nat.digitChar (c.toNat % 16)]) ∨
    (c ≠ '\\' ∧ c ≠ '\x22' ∧ ¬ c.toNat < 0x20 ∧ escapeChar c = [c]) := by
  unfold escapeChar
  -- the first seven cases are those of the escape letters
  iterate 7
    split
    · rename_i hc
      subst hc
      exact .inl ⟨_, rfl, rfl⟩
  split
  · exact .inr (.inl ⟨‹_›, rfl⟩)
  · exact .inr (.inr ⟨‹_›, ‹_›, ‹_›, rfl⟩)

/-- **A character is read from the text written for it.** -/
theorem readString_escapeChar (fuel : Nat) (c : Char) (cs : List Char) :
    readString (fuel + 1) (escapeChar c ++ cs) = withChar c (readString fuel cs) := by
  rcases escapeChar_cases c with ⟨e, he, hc⟩ | ⟨hlt, hc⟩ | ⟨hb, hq, hge, hc⟩
  · rw [hc]
    exact readString_escape he fuel cs
  · have hread := readString_hex (readHex4_escape hlt cs) (by omega) fuel
    rw [Char.ofNat_toNat] at hread
    rw [hc]
    exact hread
  · rw [hc]
    exact readString_plain hb hq hge fuel cs

/-- Escapes make no text shorter, so its length bounds the fuel. -/
theorem length_le_escaped (s : List Char) : s.length ≤ (s.flatMap escapeChar).length := by
  induction s with
  | nil => exact Nat.le_refl 0
  | cons c s ih =>
    have hc : 1 ≤ (escapeChar c).length := by
      rcases escapeChar_cases c with ⟨e, -, hc⟩ | ⟨-, hc⟩ | ⟨-, -, -, hc⟩ <;> simp [hc]
    rw [List.flatMap_cons, List.length_append, List.length_cons]
    omega

/-- **A string is read from the text written for it**, up to its closing quote. -/
theorem readString_chars (s : List Char) (fuel : Nat) (hf : s.length < fuel) (tail : List Char) :
    readString fuel (s.flatMap escapeChar ++ '\x22' :: tail) = some (some s, tail) := by
  induction s generalizing fuel with
  | nil =>
    obtain ⟨fuel, rfl⟩ := Nat.exists_eq_add_of_lt hf
    exact readString_quote _ tail
  | cons c s ih =>
    obtain ⟨fuel, rfl⟩ : ∃ n, fuel = n + 1 := ⟨fuel - 1, by omega⟩
    rw [List.flatMap_cons, List.append_assoc, readString_escapeChar, ih fuel (by simpa using hf)]; rfl

/-! ## Doubles -/

/-- A double whose text is read as the double. -/
def IsReadBack (x : Binary64) : Prop := readDraft (compact (.real x)) = (.real x, true)

/-- A positive double is read back if its text has a fraction and the parts of the text make the double. -/
theorem isReadBack_of_parts {x : Binary64} {text : String} {whole fraction : List Char} {c : Char}
    (htext : compact (.real x) = text)
    (hread : readDraft text = (numberOf false whole (c :: fraction) false 0, true))
    (hvalue : realOf false whole (c :: fraction) 0 = some x) : IsReadBack x := by
  unfold IsReadBack
  rw [htext, hread]
  unfold numberOf
  rw [hvalue]; rfl

end GuestDisks.Json
