import GuestDisks.Number.Decimal
import Mathlib.Data.List.Basic
import Mathlib.Data.List.Induction

/-!
# Numerals and the numbers they denote

`digits` writes a number and `value` reads one. Reading undoes writing (`value_digits`), and a
string of digits without a leading zero is the numeral of the number it denotes (`digits_value`),
so every number has one numeral and numerals of different numbers differ (`ofNat_injective`).
-/

namespace GuestDisks.Decimal

theorem digitChar_toNat {d : Nat} (h : d < 10) : (digitChar d).toNat = 48 + d := by
  have hv : (48 + d).isValidChar := .inl (by omega)
  rw [digitChar, Char.ofNat, dif_pos hv]; rfl

/-- The digits are the ASCII ones. -/
theorem isDigit_iff {c : Char} : isDigit c = true ↔ 48 ≤ c.toNat ∧ c.toNat ≤ 57 := by
  simp only [isDigit, Bool.and_eq_true, decide_eq_true_eq]
  exact Iff.rfl

theorem isDigit_digitChar {d : Nat} (h : d < 10) : isDigit (digitChar d) = true := by
  rw [isDigit_iff, digitChar_toNat h]; omega

/-- A digit has the value that it was written for. -/
theorem digitValue_digitChar {d : Nat} (h : d < 10) : digitValue (digitChar d) = d := by
  unfold digitValue; rw [digitChar_toNat h]; omega

/-- A digit is the character of its value. -/
theorem digitChar_digitValue {c : Char} (h : isDigit c = true) : digitChar (digitValue c) = c := by
  obtain ⟨h1, h2⟩ := isDigit_iff.1 h
  unfold digitChar digitValue
  rw [show 48 + (c.toNat - 48) = c.toNat by omega, Char.ofNat_toNat]

theorem digitValue_lt {c : Char} (h : isDigit c = true) : digitValue c < 10 := by
  have := isDigit_iff.1 h
  unfold digitValue; omega

@[simp] theorem value_nil : value [] = 0 := rfl

/-- A digit at the end counts once, and those before it ten times. -/
@[simp] theorem value_concat (cs : List Char) (c : Char) :
    value (cs ++ [c]) = 10 * value cs + digitValue c := by
  simp [value]

theorem digits_of_lt {n : Nat} (h : n < 10) : digits n = [digitChar n] := by
  rw [digits, if_pos h]

/-- The digits of a number are those of its tenth and then its last one. -/
theorem digits_of_le {n : Nat} (h : 10 ≤ n) : digits n = digits (n / 10) ++ [digitChar (n % 10)] := by
  rw [digits, if_neg (by omega)]

theorem digits_ne_nil (n : Nat) : digits n ≠ [] := by
  rw [digits]; split <;> simp

/-- **Reading a numeral gives the number.** -/
@[simp] theorem value_digits (n : Nat) : value (digits n) = n := by
  induction n using digits.induct with
  | case1 n h => rw [digits_of_lt h, ← List.nil_append [_], value_concat, digitValue_digitChar h, value_nil]; omega
  | case2 n h ih =>
    rw [digits_of_le (by omega), value_concat, ih, digitValue_digitChar (by omega)]
    omega

/-- A number is written with digits only. -/
theorem isDigit_of_mem_digits {n : Nat} {c : Char} (h : c ∈ digits n) : isDigit c = true := by
  induction n using digits.induct with
  | case1 n hn =>
    rw [digits_of_lt hn, List.mem_singleton] at h
    subst h; exact isDigit_digitChar hn
  | case2 n hn ih =>
    rw [digits_of_le (by omega), List.mem_append, List.mem_singleton] at h
    rcases h with h | rfl
    · exact ih h
    · exact isDigit_digitChar (by omega)

/-- A numeral begins with a zero only if it is that of zero. -/
theorem head?_digits {n : Nat} (h : n ≠ 0) : ∃ d, 0 < d ∧ d < 10 ∧ (digits n).head? = some (digitChar d) := by
  induction n using digits.induct with
  | case1 n hn => exact ⟨n, by omega, hn, by rw [digits_of_lt hn]; rfl⟩
  | case2 n hn ih =>
    obtain ⟨d, h0, h10, hd⟩ := ih (by omega)
    refine ⟨d, h0, h10, ?_⟩
    rw [digits_of_le (by omega), List.head?_append, hd]; rfl

/-- A string of digits that does not begin with a zero denotes a positive number. -/
theorem value_pos {cs : List Char} (hd : ∀ c ∈ cs, isDigit c = true) (hne : cs ≠ [])
    (h0 : cs.head? ≠ some '0') : 0 < value cs := by
  induction cs using List.reverseRecOn with
  | nil => exact absurd rfl hne
  | append_singleton cs c ih =>
    rw [value_concat]
    by_cases hnil : cs = []
    · subst hnil
      have hc : isDigit c = true := hd c (by simp)
      -- the only digit is the first one, which is not a zero
      have hval : digitValue c ≠ 0 := by
        intro hz
        have := digitChar_digitValue hc
        rw [hz] at this
        exact h0 (by rw [← this]; rfl)
      omega
    · rw [List.head?_append_of_ne_nil _ hnil] at h0
      have := ih (fun x hx => hd x (by simp [hx])) hnil h0
      omega

/-- **A string of digits without a leading zero is the numeral of what it denotes.** -/
theorem digits_value {cs : List Char} (hd : ∀ c ∈ cs, isDigit c = true) (hne : cs ≠ [])
    (h0 : cs.length = 1 ∨ cs.head? ≠ some '0') : digits (value cs) = cs := by
  induction cs using List.reverseRecOn with
  | nil => exact absurd rfl hne
  | append_singleton cs c ih =>
    have hc : isDigit c = true := hd c (by simp)
    have hlt := digitValue_lt hc
    rw [value_concat]
    by_cases hnil : cs = []
    · subst hnil
      rw [value_nil, digits_of_lt (by omega), Nat.mul_zero, Nat.zero_add, digitChar_digitValue hc]; rfl
    · -- what stands before the last digit has no leading zero, so it denotes a positive number
      have hcs : ∀ x ∈ cs, isDigit x = true := fun x hx => hd x (by simp [hx])
      have hlen : 0 < cs.length := List.length_pos_iff.2 hnil
      have h0' : cs.head? ≠ some '0' := by
        rcases h0 with h0 | h0
        · rw [List.length_append, List.length_singleton] at h0; omega
        · rwa [List.head?_append_of_ne_nil _ hnil] at h0
      have hpos := value_pos hcs hnil h0'
      rw [digits_of_le (by omega), show (10 * value cs + digitValue c) / 10 = value cs by omega,
        show (10 * value cs + digitValue c) % 10 = digitValue c by omega, ih hcs hnil (.inr h0'),
        digitChar_digitValue hc]

/-- No two numbers are written alike. -/
theorem digits_injective : Function.Injective digits := fun m n h => by
  rw [← value_digits m, h, value_digits]

@[simp] theorem toList_ofNat (n : Nat) : (ofNat n).toList = digits n := by
  unfold ofNat; rw [String.toList_ofList]

end GuestDisks.Decimal
