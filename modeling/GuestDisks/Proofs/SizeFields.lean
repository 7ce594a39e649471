import GuestDisks.Proofs.Checks

/-!
# Size fields

What the text of a size field asks for, and when two texts are said to ask for the same.

* `accepted_iff_inRange`: a size is accepted from the texts that spell a number of kibibytes below
  `2 ^ 64`, and is that number.
* `sameSize_exact`: two texts are the same size if both are accepted and spell one number, but also
  if neither is accepted although the grammar takes both, as it does for numbers of `2 ^ 64` or more.
-/

namespace GuestDisks

namespace Size

/-- Whether the grammar of sizes takes a text that spells no number of kibibytes below `2 ^ 64`. -/
def IsUnread (s : String) : Prop :=
  (∃ p : Spelling Text.isDecimalDigit, p.text = s) ∧ ¬∃ n, Spells s n ∧ n < UInt64.size

theorem isUnread_iff {s : String} : IsUnread s ↔ isWellFormed s = true ∧ parse s = 0 := by
  unfold IsUnread
  rw [isWellFormed_iff, parse_eq_zero_iff]

/-- The text of a number is unread exactly if the number is out of range. -/
theorem Spells.isUnread_iff {s : String} {n : Nat} (h : Spells s n) :
    IsUnread s ↔ UInt64.size ≤ n := by
  constructor
  · rintro ⟨-, hnone⟩
    by_contra hlt
    exact hnone ⟨n, h, Nat.lt_of_not_le hlt⟩
  · intro hle
    refine ⟨isWellFormed_iff.1 h.isWellFormed, ?_⟩
    rintro ⟨m, hm, hlt⟩
    rw [hm.unique h] at hlt
    exact Nat.not_lt.2 hle hlt

end Size

namespace Check

open Size (Spells IsUnread)

theorem size_eq_ok_iff_ofText {raw : String} {z : DiskSize} :
    size raw = .ok z ↔ DiskSize.ofText raw = .ok z := by
  unfold size
  cases DiskSize.ofText raw <;> simp [Except.mapError]

theorem size_eq_ok_iff_spells {raw : String} {z : DiskSize} :
    size raw = .ok z ↔ Spells raw z.kib.toNat := by
  rw [size_eq_ok_iff_ofText, Size.ofText_eq_ok_iff]

/-- A size is refused from what reads as zero. -/
theorem size_eq_error_iff {raw : String} :
    size raw = .error (.invalidValue "size" raw
        "expected a positive integer with an optional K, M, G or T suffix") ↔
      Size.parse raw = 0 := by
  unfold size DiskSize.ofText
  split <;> simp [Except.mapError, *]

/-- Two different texts are the same size if the grammar takes both and they read alike. -/
theorem sameSize_iff_of_ne {old new : String} (h : old ≠ new) :
    sameSize old new = true ↔ (Size.isWellFormed old = true ∧ Size.isWellFormed new = true) ∧
      Size.parse old = Size.parse new := by
  unfold sameSize
  rw [beq_eq_false_iff_ne.2 h, Bool.false_or]
  simp only [Bool.and_eq_true, beq_iff_eq]

/-- What is accepted as a size is not left unread. -/
theorem not_isUnread_of_size {raw : String} {z : DiskSize} (h : size raw = .ok z) : ¬IsUnread raw := by
  rintro ⟨-, hnone⟩
  exact hnone ⟨_, size_eq_ok_iff_spells.1 h, z.kib.toNat_lt_size⟩

/-- Two different texts are the same size if both are accepted as one size or both are unread. -/
theorem sameSize_cases {old new : String} (h : old ≠ new) :
    sameSize old new = true ↔
      (∃ z, size old = .ok z ∧ size new = .ok z) ∨ (IsUnread old ∧ IsUnread new) := by
  rw [sameSize_iff_of_ne h, Size.isUnread_iff, Size.isUnread_iff]
  constructor
  · rintro ⟨⟨hold, hnew⟩, hparse⟩
    by_cases hzero : Size.parse old = 0
    · exact .inr ⟨⟨hold, hzero⟩, hnew, hparse ▸ hzero⟩
    · have hpos : 0 < Size.parse old := UInt64.pos_iff_ne_zero.2 hzero
      exact .inl ⟨⟨Size.parse old⟩, size_eq_ok_iff.2 ⟨rfl, hpos⟩, size_eq_ok_iff.2 ⟨hparse.symm, hpos⟩⟩
  · rintro (⟨z, hold, hnew⟩ | ⟨⟨hold, hzero⟩, hnew, hzero'⟩)
    · have hspells := size_eq_ok_iff_spells.1 hold
      have hspells' := size_eq_ok_iff_spells.1 hnew
      exact ⟨⟨hspells.isWellFormed, hspells'.isWellFormed⟩, hspells.parse_eq.trans hspells'.parse_eq.symm⟩
    · exact ⟨⟨hold, hnew⟩, hzero.trans hzero'.symm⟩

/-- **When two texts are the same size.** Both are accepted as one size, or both are unread; so to be
the same size means to be accepted as one size except where both are unread. Texts of numbers that
differ are the same size exactly if both numbers are `2 ^ 64` or more. -/
theorem sameSize_exact {old new : String} (h : old ≠ new) :
    (sameSize old new = true ↔
      (∃ z, size old = .ok z ∧ size new = .ok z) ∨ (IsUnread old ∧ IsUnread new)) ∧
    ((sameSize old new = true ↔ ∃ z, size old = .ok z ∧ size new = .ok z) ↔
      ¬(IsUnread old ∧ IsUnread new)) ∧
    ∀ m n, Spells old m → Spells new n → m ≠ n →
      (sameSize old new = true ↔ UInt64.size ≤ m ∧ UInt64.size ≤ n) := by
  refine ⟨sameSize_cases h, ?_, fun m n hm hn hne => ?_⟩
  · rw [sameSize_cases h]
    constructor
    · intro hiff hunread
      obtain ⟨z, hold, -⟩ := hiff.1 (.inr hunread)
      exact not_isUnread_of_size hold hunread.1
    · intro hread
      exact ⟨fun hsame => hsame.resolve_right hread, .inl⟩
  · have hapart : ¬∃ z, size old = .ok z ∧ size new = .ok z := by
      rintro ⟨z, hold, hnew⟩
      rw [size_eq_ok_iff_spells] at hold hnew
      exact hne ((hm.unique hold).trans (hnew.unique hn))
    rw [sameSize_cases h, or_iff_right hapart, hm.isUnread_iff, hn.isUnread_iff]

theorem sameSize_exact_gibibyte : "1024M" ≠ "1G" ∧ sameSize "1024M" "1G" = true := by
  have hne : "1024M" ≠ "1G" := by decide
  refine ⟨hne, (sameSize_exact hne).1.2 (.inl ⟨⟨1048576⟩, ?_, ?_⟩)⟩ <;> decide +kernel

/-- Two numbers of tebibytes that are out of range are the same size, though they differ and neither is
accepted. -/
theorem sameSize_out_of_range :
    "20000000000T" ≠ "30000000000T" ∧ sameSize "20000000000T" "30000000000T" = true ∧
      (¬∃ z, size "20000000000T" = .ok z ∧ size "30000000000T" = .ok z) ∧
      ∃ m n, Spells "20000000000T" m ∧ Spells "30000000000T" n ∧ m ≠ n := by
  have hparse : Size.parse "20000000000T" = 0 := by decide +kernel
  refine ⟨by decide, by decide +kernel, ?_, ?_⟩
  · rintro ⟨z, hold, -⟩
    rw [size_eq_error_iff.2 hparse] at hold
    cases hold
  · have htwo : "20000000000T" = .ofList (Decimal.digits 20000000000 ++ [Size.Scale.tebi.letter]) := by
      decide +kernel
    have hthree : "30000000000T" = .ofList (Decimal.digits 30000000000 ++ [Size.Scale.tebi.letter]) := by
      decide +kernel
    rw [htwo, hthree]
    exact ⟨_, _, Size.spells_digits (by decide) .tebi, Size.spells_digits (by decide) .tebi, by decide⟩

end Check

end GuestDisks
