import GuestDisks.Device.Size
import GuestDisks.Proofs.Numeral

/-!
# Size texts

A size is **spelled** as a digit that is not zero, further digits and at most one unit letter
(`Spelling`). The grammar takes further digits of any script, but numbers are read from ASCII digits
only, so the texts that **spell** a number (`Spells`) are fewer than those that the grammar takes.

* `isWellFormed_iff`, `isWellFormed_exact`: the grammar takes what is spelled with decimal digits of
  any script, which is what spells a number save for the texts with a digit of a foreign script.
* `ofText_eq_ok_iff`, `parse_eq_zero_iff`: a text is read as the number of kibibytes that it spells,
  and as zero if it spells none below `2 ^ 64`.
* `parse_format`, `format_canonical`: every number of kibibytes reads back from its text, which is
  the same for all texts that spell the number. Zero is written as well, but as `0T`, which no
  grammar takes and which reads as zero for that reason.
-/

namespace GuestDisks.Size

/-! ## Spellings -/

/-- A size as it is spelled with digits of one class: a digit from 1 to 9, further digits, and the
letter of a unit or none. -/
structure Spelling (isDigit : Char → Bool) where
  first : Char
  rest : List Char
  unit : Option Scale
  first_bounds : '1' ≤ first ∧ first ≤ '9'
  rest_digits : ∀ c ∈ rest, isDigit c = true

namespace Spelling

variable {isDigit isDigit' : Char → Bool}

def digits (p : Spelling isDigit) : List Char := p.first :: p.rest

/-- The unit that is meant. A bare number counts gibibytes. -/
def scale (p : Spelling isDigit) : Scale := p.unit.getD .gibi

def chars (p : Spelling isDigit) : List Char := p.digits ++ p.unit.toList.map Scale.letter

def text (p : Spelling isDigit) : String := .ofList p.chars

/-- The number of kibibytes that is spelled in ASCII, however large. -/
def kibibytes (p : Spelling Decimal.isDigit) : Nat := Decimal.value p.digits * p.scale.kibibytes

/-- The same spelling, when its further digits are of another class as well. -/
def ofClass (p : Spelling isDigit) (h : ∀ c ∈ p.rest, isDigit' c = true) : Spelling isDigit' where
  first := p.first
  rest := p.rest
  unit := p.unit
  first_bounds := p.first_bounds
  rest_digits := h

theorem digits_ne_nil (p : Spelling isDigit) : p.digits ≠ [] := List.cons_ne_nil _ _

@[simp] theorem toList_text (p : Spelling isDigit) : p.text.toList = p.chars := String.toList_ofList

end Spelling

/-- Whether a text spells a number of kibibytes, in ASCII. -/
def Spells (s : String) (n : Nat) : Prop :=
  ∃ p : Spelling Decimal.isDigit, p.text = s ∧ p.kibibytes = n

/-! ## Digits and unit letters -/

theorem kibibytes_pos (scale : Scale) : 0 < scale.kibibytes := by cases scale <;> decide

/-- A unit is told by its own letter. -/
theorem ofLetter?_eq_some_iff {c : Char} {scale : Scale} :
    Scale.ofLetter? c = some scale ↔ c = scale.letter := by
  constructor
  · intro h
    unfold Scale.ofLetter? at h
    split at h <;> cases h <;> rfl
  · rintro rfl; cases scale <;> rfl

/-- The ASCII digits are decimal digits. -/
theorem isDecimalDigit_of_isDigit {c : Char} (h : Decimal.isDigit c = true) :
    Text.isDecimalDigit c = true := by
  obtain ⟨h1, h2⟩ := Decimal.isDigit_iff.1 h
  unfold Text.isDecimalDigit Text.inRanges
  rw [List.any_eq_true]
  exact ⟨(0x30, 0x39), List.mem_cons_self, by simp [h1, h2]⟩

theorem isDecimalDigit_letter (scale : Scale) : Text.isDecimalDigit scale.letter = false := by
  cases scale <;> decide

theorem isDigit_of_bounds {c : Char} (h : '1' ≤ c ∧ c ≤ '9') : Decimal.isDigit c = true := by
  have h1 : 49 ≤ c.toNat := h.1
  have h9 : c.toNat ≤ 57 := h.2
  rw [Decimal.isDigit_iff]; omega

/-! ## Splitting off the unit -/

theorem split_concat (cs : List Char) (scale : Scale) :
    split (cs ++ [scale.letter]) = (cs, scale) := by
  unfold split
  rw [List.getLast?_concat, Option.bind_some, ofLetter?_eq_some_iff.2 rfl, List.dropLast_concat]

/-- A text without a unit letter at its end is in gibibytes. -/
theorem split_of_no_letter {cs : List Char} (h : ∀ scale : Scale, cs.getLast? ≠ some scale.letter) :
    split cs = (cs, .gibi) := by
  have hnone : cs.getLast?.bind Scale.ofLetter? = none := by
    rw [Option.bind_eq_none_iff]
    intro c hc
    refine Option.eq_none_iff_forall_ne_some.2 fun scale hs => h scale ?_
    rw [hc, ofLetter?_eq_some_iff.1 hs]
  unfold split
  rw [hnone]

/-- Nothing of a text is lost: its digits and its unit letter, if its last character is one. -/
theorem split_append (cs : List Char) :
    (split cs).1 ++ (cs.getLast?.bind Scale.ofLetter?).toList.map Scale.letter = cs := by
  unfold split
  cases h : cs.getLast?.bind Scale.ofLetter? with
  | none => exact List.append_nil cs
  | some scale =>
    obtain ⟨c, hlast, hc⟩ := Option.bind_eq_some_iff.1 h
    obtain rfl := ofLetter?_eq_some_iff.1 hc
    exact List.dropLast_append_getLast? _ hlast

namespace Spelling

/-- An ASCII spelling, as one with the digits of any script. -/
def widened (p : Spelling Decimal.isDigit) : Spelling Text.isDecimalDigit :=
  p.ofClass fun c hc => isDecimalDigit_of_isDigit (p.rest_digits c hc)

/-- A spelling is split into its digits and its unit, since no digit is a unit letter. -/
theorem split_chars (p : Spelling Text.isDecimalDigit) : split p.chars = (p.digits, p.scale) := by
  unfold chars scale
  cases p.unit with
  | some scale => exact split_concat p.digits scale
  | none =>
    rw [show p.digits ++ (none : Option Scale).toList.map Scale.letter = p.digits from List.append_nil _]
    refine split_of_no_letter fun scale hlast => ?_
    have hdigit : Text.isDecimalDigit scale.letter = true := by
      rcases List.mem_cons.1 (List.mem_of_getLast? hlast) with hfirst | hrest
      · rw [hfirst]; exact isDecimalDigit_of_isDigit (isDigit_of_bounds p.first_bounds)
      · exact p.rest_digits _ hrest
    rw [isDecimalDigit_letter] at hdigit
    cases hdigit

/-- Spellings of one text have the same digits and the same unit. -/
theorem parts_eq {p q : Spelling Text.isDecimalDigit} (h : p.text = q.text) :
    p.digits = q.digits ∧ p.scale = q.scale := by
  have hchars : p.chars = q.chars := String.ofList_injective h
  have hparts : (p.digits, p.scale) = (q.digits, q.scale) := by
    rw [← p.split_chars, ← q.split_chars, hchars]
  exact Prod.mk.inj hparts

end Spelling

/-! ## The grammar -/

/-- **The grammar** takes what is spelled with decimal digits of any script. -/
theorem isWellFormed_iff {s : String} :
    isWellFormed s = true ↔ ∃ p : Spelling Text.isDecimalDigit, p.text = s := by
  constructor
  · intro h
    unfold isWellFormed at h
    cases hd : (split s.toList).1 with
    | nil => rw [hd] at h; cases h
    | cons d ds =>
      rw [hd] at h
      simp only [Bool.and_eq_true, decide_eq_true_eq, List.all_eq_true] at h
      refine ⟨⟨d, ds, s.toList.getLast?.bind Scale.ofLetter?, h.1, h.2⟩, ?_⟩
      rw [← String.toList_inj, Spelling.toList_text]
      show (d :: ds) ++ _ = _
      rw [← hd, split_append]
  · rintro ⟨p, rfl⟩
    unfold isWellFormed
    rw [Spelling.toList_text, p.split_chars]
    simp only [Spelling.digits, Bool.and_eq_true, decide_eq_true_eq, List.all_eq_true]
    exact ⟨p.first_bounds, p.rest_digits⟩

/-- Every spelling of a size is in the grammar. -/
theorem Spells.isWellFormed {s : String} {n : Nat} (h : Spells s n) : isWellFormed s = true := by
  obtain ⟨p, hp, -⟩ := h
  exact isWellFormed_iff.2 ⟨p.widened, hp⟩

/-! ## Reading -/

/-- A word is read from ASCII digits, if its value fits 64 bits. -/
theorem readWord_eq_some_iff {cs : List Char} {n : Nat} :
    readWord cs = some n ↔
      ((cs ≠ [] ∧ ∀ c ∈ cs, Decimal.isDigit c = true) ∧ n < UInt64.size) ∧ Decimal.value cs = n := by
  unfold readWord
  rw [Option.ite_none_right_eq_some, Option.some.injEq]
  simp only [Bool.and_eq_true, Bool.not_eq_true', List.isEmpty_eq_false_iff, List.all_eq_true,
    decide_eq_true_eq]
  constructor
  · rintro ⟨h, rfl⟩; exact ⟨h, rfl⟩
  · rintro ⟨h, rfl⟩; exact ⟨h, rfl⟩

namespace Spelling

theorem isDigit_of_mem (p : Spelling Decimal.isDigit) : ∀ c ∈ p.digits, Decimal.isDigit c = true := by
  intro c hc
  rcases List.mem_cons.1 hc with rfl | hrest
  · exact isDigit_of_bounds p.first_bounds
  · exact p.rest_digits c hrest

theorem kibibytes_pos (p : Spelling Decimal.isDigit) : 0 < p.kibibytes := by
  have hhead : p.digits.head? ≠ some '0' := by
    intro h
    have hfirst : p.first = '0' := Option.some.inj h
    exact absurd (hfirst ▸ p.first_bounds.1) (by decide)
  exact Nat.mul_pos (Decimal.value_pos p.isDigit_of_mem p.digits_ne_nil hhead)
    (Size.kibibytes_pos p.scale)

/-- An ASCII spelling is read as what it spells, or as zero if that is out of range. -/
theorem parse_text (p : Spelling Decimal.isDigit) :
    parse p.text = if p.kibibytes < UInt64.size then UInt64.ofNat p.kibibytes else 0 := by
  have hwell : isWellFormed p.text = true := isWellFormed_iff.2 ⟨p.widened, rfl⟩
  have hsplit : split p.chars = (p.digits, p.scale) := p.widened.split_chars
  unfold parse
  rw [if_pos hwell, toList_text, hsplit]
  cases hread : readWord p.digits with
  | some n =>
    obtain ⟨-, rfl⟩ := readWord_eq_some_iff.1 hread
    simp only [hread]; rfl
  | none =>
    -- the digits alone are out of range already
    have hout : ¬ p.kibibytes < UInt64.size := by
      intro hlt
      have hle : Decimal.value p.digits ≤ p.kibibytes :=
        Nat.le_mul_of_pos_right _ (Size.kibibytes_pos p.scale)
      have hsome : readWord p.digits = some (Decimal.value p.digits) := readWord_eq_some_iff.2
        ⟨⟨⟨p.digits_ne_nil, p.isDigit_of_mem⟩, Nat.lt_of_le_of_lt hle hlt⟩, rfl⟩
      rw [hread] at hsome
      cases hsome
    simp only [hread, if_neg hout]

end Spelling

/-- No text spells a size of zero. -/
theorem Spells.pos {s : String} {n : Nat} (h : Spells s n) : 0 < n := by
  obtain ⟨p, -, rfl⟩ := h
  exact p.kibibytes_pos

/-- No text spells two numbers. -/
theorem Spells.unique {s : String} {m n : Nat} (hm : Spells s m) (hn : Spells s n) : m = n := by
  obtain ⟨p, hp, rfl⟩ := hm
  obtain ⟨q, hq, rfl⟩ := hn
  obtain ⟨hdigits, hscale⟩ : p.digits = q.digits ∧ p.scale = q.scale :=
    Spelling.parts_eq (p := p.widened) (q := q.widened) (hp.trans hq.symm)
  unfold Spelling.kibibytes
  rw [hdigits, hscale]

/-- What is not read as zero spells a number. -/
theorem exists_spells_of_parse {s : String} (h : parse s ≠ 0) : ∃ n, Spells s n := by
  unfold parse at h
  split at h
  · rename_i hwell
    obtain ⟨p, rfl⟩ := isWellFormed_iff.1 hwell
    rw [Spelling.toList_text, p.split_chars] at h
    cases hread : readWord p.digits with
    | none => simp only [hread] at h; exact absurd rfl h
    | some n =>
      -- the digits were read as a numeral, so they are ASCII ones
      obtain ⟨⟨⟨-, hdigits⟩, -⟩, -⟩ := readWord_eq_some_iff.1 hread
      exact ⟨_, p.ofClass fun c hc => hdigits c (List.mem_cons_of_mem _ hc), rfl, rfl⟩
  · exact absurd rfl h

/-- **Reading**: a text reads as a number other than zero exactly if it spells that number. -/
theorem parse_eq_iff {s : String} {kib : UInt64} (h : kib ≠ 0) :
    parse s = kib ↔ Spells s kib.toNat := by
  constructor
  · rintro rfl
    obtain ⟨n, p, rfl, rfl⟩ := exists_spells_of_parse h
    refine ⟨p, rfl, ?_⟩
    rw [p.parse_text] at h ⊢
    split at h
    · rename_i hlt; rw [if_pos hlt, UInt64.toNat_ofNat_of_lt' hlt]
    · exact absurd rfl h
  · rintro ⟨p, rfl, hp⟩
    rw [p.parse_text, hp, if_pos kib.toNat_lt_size, UInt64.ofNat_toNat]

/-- A text that spells a size in range is read as that size. -/
theorem Spells.parse_eq {s : String} {kib : UInt64} (h : Spells s kib.toNat) : parse s = kib := by
  have hne : kib ≠ 0 := by
    rintro rfl; exact Nat.lt_irrefl 0 h.pos
  exact (parse_eq_iff hne).2 h

/-- A text reads as zero exactly if it spells no number below `2 ^ 64`. -/
theorem parse_eq_zero_iff {s : String} :
    parse s = 0 ↔ ¬∃ n, Spells s n ∧ n < UInt64.size := by
  constructor
  · rintro hzero ⟨n, hn, hlt⟩
    have hkib : (UInt64.ofNat n).toNat = n := UInt64.toNat_ofNat_of_lt' hlt
    have hread : parse s = UInt64.ofNat n := Spells.parse_eq (by rw [hkib]; exact hn)
    have hn0 : n = 0 := by rw [← hkib, ← hread, hzero]; rfl
    exact Nat.ne_of_gt hn.pos hn0
  · intro h
    by_contra hne
    exact h ⟨_, (parse_eq_iff hne).1 rfl, (parse s).toNat_lt_size⟩

/-- **A text is the size that it spells**, and no other text is a size. -/
theorem ofText_eq_ok_iff {s : String} {size : DiskSize} :
    DiskSize.ofText s = .ok size ↔ Spells s size.kib.toNat := by
  obtain ⟨kib⟩ := size
  unfold DiskSize.ofText
  by_cases hzero : parse s = 0
  · rw [if_pos hzero]
    simp only [reduceCtorEq, false_iff]
    intro h
    exact parse_eq_zero_iff.1 hzero ⟨_, h, kib.toNat_lt_size⟩
  · rw [if_neg hzero, Except.ok.injEq, DiskSize.mk.injEq]
    constructor
    · rintro rfl; exact (parse_eq_iff hzero).1 rfl
    · exact Spells.parse_eq

/-- The numeral of a positive number, with a unit letter, is a spelling. -/
theorem spells_digits {n : Nat} (h : n ≠ 0) (scale : Scale) :
    Spells (.ofList (Decimal.digits n ++ [scale.letter])) (n * scale.kibibytes) := by
  obtain ⟨d, h0, h10, hd⟩ := Decimal.head?_digits h
  obtain ⟨ds, hds⟩ := List.head?_eq_some_iff.1 hd
  have hc := Decimal.digitChar_toNat h10
  have h1 : '1' ≤ Decimal.digitChar d := by show 49 ≤ (Decimal.digitChar d).toNat; omega
  have h9 : Decimal.digitChar d ≤ '9' := by show (Decimal.digitChar d).toNat ≤ 57; omega
  have hrest : ∀ c ∈ ds, Decimal.isDigit c = true := by
    intro c hc
    exact Decimal.isDigit_of_mem_digits (n := n) (by rw [hds]; exact List.mem_cons_of_mem _ hc)
  refine ⟨⟨Decimal.digitChar d, ds, some scale, ⟨h1, h9⟩, hrest⟩, ?_, ?_⟩
  · rw [hds]; rfl
  · show Decimal.value (Decimal.digitChar d :: ds) * scale.kibibytes = _
    rw [← hds, Decimal.value_digits]

/-- The unit that a size is written in divides it. -/
theorem kibibytes_scaleOf_dvd (kib : UInt64) : (scaleOf kib).kibibytes ∣ kib.toNat := by
  unfold scaleOf
  split
  · exact Nat.dvd_of_mod_eq_zero ‹_›
  split
  · exact Nat.dvd_of_mod_eq_zero ‹_›
  split
  · exact Nat.dvd_of_mod_eq_zero ‹_›
  · exact Nat.one_dvd _

/-- The text of a number other than zero spells it. -/
theorem spells_format {kib : UInt64} (h : kib ≠ 0) : Spells (format kib) kib.toNat := by
  have hpos : kib.toNat ≠ 0 := fun hz => h (UInt64.toNat_inj.1 hz)
  have hmul : kib.toNat / (scaleOf kib).kibibytes * (scaleOf kib).kibibytes = kib.toNat :=
    Nat.div_mul_cancel (kibibytes_scaleOf_dvd kib)
  have hq : kib.toNat / (scaleOf kib).kibibytes ≠ 0 := by
    intro hz; rw [hz, Nat.zero_mul] at hmul; exact hpos hmul.symm
  have hspells := spells_digits hq (scaleOf kib)
  rw [hmul] at hspells
  exact hspells

/-- **Every size reads back from its text.** -/
theorem parse_format (kib : UInt64) : parse (format kib) = kib := by
  by_cases h : kib = 0
  · subst h; decide +kernel
  · exact (parse_eq_iff h).2 (spells_format h)

/-- No two sizes are written alike. -/
theorem format_injective : Function.Injective format := by
  intro k l h
  rw [← parse_format k, h, parse_format]

theorem parse_empty : parse "" = 0 := by decide

/-- The last character of a written size is the letter of the largest unit that divides it. -/
theorem getLast?_format (kib : UInt64) :
    (format kib).toList.getLast? = some
      (if Scale.tebi.kibibytes ∣ kib.toNat then 'T' else if Scale.gibi.kibibytes ∣ kib.toNat then 'G'
        else if Scale.mebi.kibibytes ∣ kib.toNat then 'M' else 'K') := by
  have hletter : (scaleOf kib).letter =
      if Scale.tebi.kibibytes ∣ kib.toNat then 'T' else if Scale.gibi.kibibytes ∣ kib.toNat then 'G'
        else if Scale.mebi.kibibytes ∣ kib.toNat then 'M' else 'K' := by
    unfold scaleOf
    simp only [Nat.dvd_iff_mod_eq_zero, apply_ite Scale.letter]
    rfl
  unfold format
  rw [String.toList_ofList, List.getLast?_concat, hletter]

/-! ## Main results -/

/-- **How far the grammar goes.** It takes what is spelled with decimal digits of any script. That is
the same as to be spelled in ASCII for all texts save those with a digit of a foreign script, and
none of these is read: what does not read as zero spells a number below `2 ^ 64`, and conversely. -/
theorem isWellFormed_exact (s : String) :
    (isWellFormed s = true ↔ ∃ p : Spelling Text.isDecimalDigit, p.text = s) ∧
    ((isWellFormed s = true ↔ ∃ p : Spelling Decimal.isDigit, p.text = s) ↔
      ¬∃ p : Spelling Text.isDecimalDigit, p.text = s ∧ ∃ c ∈ p.rest, Decimal.isDigit c = false) ∧
    (parse s ≠ 0 ↔ ∃ n, Spells s n ∧ n < UInt64.size) := by
  refine ⟨isWellFormed_iff, ?_, not_iff_comm.1 parse_eq_zero_iff.symm⟩
  rw [isWellFormed_iff]
  constructor
  · rintro hiff ⟨p, hp, c, hc, hforeign⟩
    obtain ⟨q, hq⟩ := hiff.1 ⟨p, hp⟩
    -- both spell the text with the same digits, of which `q` has ASCII ones only
    have hdigits : p.digits = q.digits := (Spelling.parts_eq (q := q.widened) (hp.trans hq.symm)).1
    have hmem : c ∈ q.digits := by rw [← hdigits]; exact List.mem_cons_of_mem _ hc
    rw [q.isDigit_of_mem c hmem] at hforeign
    cases hforeign
  · intro hnone
    constructor
    · rintro ⟨p, hp⟩
      have hascii : ∀ c ∈ p.rest, Decimal.isDigit c = true := by
        intro c hc
        by_contra hforeign
        exact hnone ⟨p, hp, c, hc, Bool.eq_false_iff.2 hforeign⟩
      exact ⟨p.ofClass hascii, hp⟩
    · rintro ⟨p, hp⟩; exact ⟨p.widened, hp⟩

/-- The grammar takes a three of another script after the one, which spells no number in ASCII; it is
read as zero, though thirteen gibibytes are in range. -/
theorem wellFormed_foreign_digit :
    ¬(isWellFormed "1\u0663" = true ↔ ∃ p : Spelling Decimal.isDigit, p.text = "1\u0663") ∧
      isWellFormed "1\u0663" = true ∧ parse "1\u0663" = 0 := by
  have hwell : isWellFormed "1\u0663" = true := by decide +kernel
  refine ⟨fun h => ?_, hwell, by decide +kernel⟩
  obtain ⟨p, hp⟩ := h.1 hwell
  have hsplit : split p.chars = (p.digits, p.scale) := p.widened.split_chars
  have hdigits : p.digits = ['1', '\u0663'] := by
    rw [← p.toList_text, hp] at hsplit
    rw [← show (split "1\u0663".toList).1 = ['1', '\u0663'] by decide +kernel, hsplit]
  have := p.isDigit_of_mem '\u0663' (by rw [hdigits]; simp)
  exact absurd this (by decide)

/-- **Each size has one text.** It reads back, and its letter is that of the largest unit that divides
the size. Texts that are sizes are written alike exactly if they spell the same number. -/
theorem format_canonical (kib : UInt64) (s t : String) :
    parse (format kib) = kib ∧
    (kib ≠ 0 → isWellFormed (format kib) = true ∧ DiskSize.ofText (format kib) = .ok ⟨kib⟩) ∧
    (format kib).toList.getLast? = some
      (if Scale.tebi.kibibytes ∣ kib.toNat then 'T' else if Scale.gibi.kibibytes ∣ kib.toNat then 'G'
        else if Scale.mebi.kibibytes ∣ kib.toNat then 'M' else 'K') ∧
    parse (format (parse s)) = parse s ∧
    ∀ a b, DiskSize.ofText s = .ok a → DiskSize.ofText t = .ok b →
      (format (parse s) = format (parse t) ↔ ∃ n, Spells s n ∧ Spells t n) := by
  refine ⟨parse_format kib, fun h => ?_, getLast?_format kib, parse_format _, fun a b ha hb => ?_⟩
  · have hspells := spells_format h
    exact ⟨hspells.isWellFormed, ofText_eq_ok_iff.2 hspells⟩
  · rw [ofText_eq_ok_iff] at ha hb
    rw [format_injective.eq_iff, ha.parse_eq, hb.parse_eq]
    constructor
    · intro hab; exact ⟨_, ha, by rw [hab]; exact hb⟩
    · rintro ⟨n, hs, ht⟩
      exact UInt64.toNat_inj.1 ((ha.unique hs).trans (ht.unique hb))

/-- A gibibyte can be spelled in two ways, and is written in one. -/
theorem format_canonical_gibibyte :
    isWellFormed (format 1048576) = true ∧
      DiskSize.ofText "1024M" = .ok ⟨1048576⟩ ∧ DiskSize.ofText "1G" = .ok ⟨1048576⟩ ∧
      ∃ n, Spells "1024M" n ∧ Spells "1G" n := by
  have hmebi : DiskSize.ofText "1024M" = .ok ⟨1048576⟩ := by decide +kernel
  have hgibi : DiskSize.ofText "1G" = .ok ⟨1048576⟩ := by decide +kernel
  have hsame : format (parse "1024M") = format (parse "1G") := by decide +kernel
  obtain ⟨-, hwritten, -, -, hiff⟩ := format_canonical 1048576 "1024M" "1G"
  exact ⟨(hwritten (by decide)).1, hmebi, hgibi, (hiff _ _ hmebi hgibi).1 hsame⟩

end GuestDisks.Size
