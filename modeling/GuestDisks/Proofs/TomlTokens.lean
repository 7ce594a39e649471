import GuestDisks.Proofs.Numeral
import GuestDisks.Toml.Printer
import GuestDisks.Toml.Reader

/-!
# TOML strings, keys and numbers, printed and scanned

Each part of a line is scanned up to the text that follows it.

* A text is written as one of five sorts of string, and scanned from each (`scanString_chars`). In a basic
  string a character stands for itself or is escaped (`escapeChar_cases`); in a literal string of several
  lines no three apostrophes stand in a row, so none of them can end it.
* A key is written bare or as a basic string, and a dotted name is scanned key by key (`scanKey_path`).
* An integer of 64 bits is scanned from its numeral (`scanNumber_ofInt`). Doubles are scanned back if their
  texts are (`IsReadBack`).
-/

namespace GuestDisks.Toml

variable {c : Char} {cs s tail : List Char}

/-! ## Characters -/

/-- A character may stand in a comment, and so unescaped in a string, if it is a tab or no control
character. -/
theorem isCommentChar_iff : isCommentChar c = true ↔ c = '\t' ∨ 0x20 ≤ c.toNat ∧ c.toNat ≠ 0x7f := by
  unfold isCommentChar
  simp

/-- What may stand in a comment breaks no line. -/
theorem ne_of_isCommentChar (h : isCommentChar c = true) : c ≠ '\n' ∧ c ≠ '\r' := by
  constructor
  · rintro rfl
    exact absurd h (by decide)
  · rintro rfl
    exact absurd h (by decide)

theorem afterNewline?_eq_none (hn : c ≠ '\n') (hr : c ≠ '\r') (cs : List Char) :
    afterNewline? (c :: cs) = none := by
  unfold afterNewline?
  split
  · rename_i h
    exact absurd (List.cons.inj h).1 hn
  · rename_i h
    exact absurd (List.cons.inj h).1 hr
  · rfl

theorem skipBlanks_cons (h : isBlank c = false) (cs : List Char) : skipBlanks (c :: cs) = c :: cs := by
  unfold skipBlanks
  rw [List.dropWhile_cons_of_neg (by simp [h])]

/-! ## Escapes -/

theorem hexValue?_upperHexDigit : ∀ n < 16, hexValue? (upperHexDigit n) = some n := by decide

/-- A character below 256 is scanned from its four hexadecimal digits. -/
theorem scanEscape_hex {n : Nat} (h : n < 256) (cs : List Char) :
    scanEscape ('u' :: '0' :: '0' :: upperHexDigit (n / 16) :: upperHexDigit (n % 16) :: cs) =
      some (Char.ofNat n, cs) := by
  have hhigh := hexValue?_upperHexDigit (n / 16) (by omega)
  have hlow := hexValue?_upperHexDigit (n % 16) (by omega)
  have hds : ['0', '0', upperHexDigit (n / 16), upperHexDigit (n % 16)].mapM hexValue? =
      some [0, 0, n / 16, n % 16] := by
    have hzero : hexValue? '0' = some 0 := by decide
    simp [List.mapM_cons, hzero, hhigh, hlow]
  have hcode : [0, 0, n / 16, n % 16].foldl (fun m d => 16 * m + d) 0 = n := by
    simp only [List.foldl_cons, List.foldl_nil]
    omega
  have hvalid : n.isValidChar := .inl (by omega)
  show scanCodePoint 4 _ = _
  unfold scanCodePoint
  simp only [List.take_succ_cons, List.take_zero, hds, Option.bind_eq_bind, Option.bind_some, hcode]
  rw [if_pos ⟨rfl, hvalid⟩]
  rfl

/-- **A character is written as an escape or as it is.** What stands after the backslash of an escape is no
blank, so no line is joined there. -/
theorem escapeChar_cases (c : Char) :
    (∃ e es, escapeChar c = '\\' :: e :: es ∧ (∀ cs, scanEscape (e :: es ++ cs) = some (c, cs)) ∧
      e ∉ [' ', '\t', '\n', '\r']) ∨
    (c ≠ '\\' ∧ c ≠ '\x22' ∧ isCommentChar c = true ∧ escapeChar c = [c]) := by
  unfold escapeChar
  -- the first seven cases are those of the escape letters
  iterate 7
    split
    · rename_i hc
      subst hc
      exact .inl ⟨_, _, rfl, fun _ => rfl, by decide⟩
  split
  · rename_i hc
    have hlt : c.toNat < 256 := by
      rcases hc with h | rfl
      · omega
      · decide
    refine .inl ⟨_, _, rfl, fun cs => ?_, by decide⟩
    have hscan := scanEscape_hex hlt cs
    rw [Char.ofNat_toNat] at hscan
    exact hscan
  · rename_i hc
    rw [not_or] at hc
    have hdel : c.toNat ≠ 0x7f := by
      intro h
      have hchar := Char.ofNat_toNat c
      rw [h] at hchar
      exact hc.2 hchar.symm
    exact .inr ⟨‹_›, ‹_›, isCommentChar_iff.2 (.inr ⟨by omega, hdel⟩), rfl⟩

/-! ## Strings on one line -/

/-- What is scanned with a character in front. -/
def withChar (c : Char) (r : Option (List Char × List Char)) : Option (List Char × List Char) :=
  r.map fun r => (c :: r.1, r.2)

/-- A character is scanned from its escape. -/
theorem scanBasic_escape {e : List Char} (h : scanEscape e = some (c, cs)) (fuel : Nat) :
    scanBasic (fuel + 1) ('\\' :: e) = withChar c (scanBasic fuel cs) := by
  rw [scanBasic, h]
  simp only [Option.bind_eq_bind, Option.bind_some]
  cases scanBasic fuel cs <;> rfl

/-- A character that needs no escape is scanned as itself. -/
theorem scanBasic_plain (hb : c ≠ '\\') (hq : c ≠ '\x22') (hc : isCommentChar c = true) (fuel : Nat)
    (cs : List Char) : scanBasic (fuel + 1) (c :: cs) = withChar c (scanBasic fuel cs) := by
  rw [scanBasic]
  · rw [if_pos hc]
    cases scanBasic fuel cs <;> rfl
  · exact hb
  · exact hq

/-- Fuel for each character is no more than the length of a text in which each leaves something. -/
theorem length_le_flatMap {write : Char → List Char} (h : ∀ c, 1 ≤ (write c).length) (s : List Char) :
    s.length ≤ (s.flatMap write).length := by
  induction s with
  | nil => exact Nat.le_refl 0
  | cons c s ih =>
    have hc := h c
    rw [List.flatMap_cons, List.length_append, List.length_cons]
    omega

theorem one_le_length_escapeChar (c : Char) : 1 ≤ (escapeChar c).length := by
  rcases escapeChar_cases c with ⟨e, es, hc, -, -⟩ | ⟨-, -, -, hc⟩
  · rw [hc]
    exact Nat.succ_pos _
  · rw [hc]
    exact Nat.le_refl 1

/-- **A basic string is scanned up to its closing quote.** -/
theorem scanBasic_chars (s : List Char) (fuel : Nat) (hf : s.length < fuel) (tail : List Char) :
    scanBasic fuel (s.flatMap escapeChar ++ '\x22' :: tail) = some (s, tail) := by
  induction s generalizing fuel with
  | nil =>
    obtain ⟨fuel, rfl⟩ := Nat.exists_eq_add_of_lt hf
    rfl
  | cons c s ih =>
    obtain ⟨fuel, rfl⟩ : ∃ n, fuel = n + 1 := ⟨fuel - 1, by omega⟩
    have hrest := ih fuel (by simpa using hf)
    rw [List.flatMap_cons, List.append_assoc]
    rcases escapeChar_cases c with ⟨e, es, hc, hscan, -⟩ | ⟨hb, hq, hchar, hc⟩
    · rw [hc]
      show scanBasic (fuel + 1) ('\\' :: (e :: es ++ (s.flatMap escapeChar ++ '\x22' :: tail))) = _
      rw [scanBasic_escape (hscan _), hrest]
      rfl
    · rw [hc]
      show scanBasic (fuel + 1) (c :: (s.flatMap escapeChar ++ '\x22' :: tail)) = _
      rw [scanBasic_plain hb hq hchar, hrest]
      rfl

/-- **A literal string is scanned up to its closing quote.** -/
theorem scanLiteral_chars (hs : ∀ c ∈ s, isCommentChar c = true ∧ c ≠ '\x27') (tail : List Char) :
    scanLiteral (s ++ '\x27' :: tail) = some (s, tail) := by
  induction s with
  | nil => rfl
  | cons c s ih =>
    obtain ⟨⟨hchar, hq⟩, hs⟩ := List.forall_mem_cons.1 hs
    show (if c = '\x27' then _ else _) = _
    rw [if_neg hq, if_pos hchar, show scanLiteral (s.append ('\x27' :: tail)) = _ from ih hs]
    rfl

/-! ## Strings of several lines -/

/-- Three quotes close a string, if no fourth follows. -/
theorem closing_quotes {quote : Char} (ht : ∀ cs, tail ≠ quote :: cs) :
    closing quote (quote :: quote :: quote :: tail) = some (some ([], tail)) := by
  have hnone : tail.takeWhile (· == quote) = [] := by
    cases tail with
    | nil => rfl
    | cons c tail =>
      have hc : c ≠ quote := fun h => ht tail (by rw [h])
      exact List.takeWhile_cons_of_neg (by simpa using hc)
  have hrun : (quote :: quote :: quote :: tail).takeWhile (· == quote) = [quote, quote, quote] := by
    simp [hnone]
  unfold closing
  rw [hrun]
  rfl

theorem scanBasicLines_escape {e : Char} {es : List Char} (h : scanEscape (e :: es) = some (c, cs))
    (he : e ∉ [' ', '\t', '\n', '\r']) (fuel : Nat) :
    scanBasicLines (fuel + 1) ('\\' :: e :: es) = withChar c (scanBasicLines fuel cs) := by
  simp only [List.mem_cons, List.not_mem_nil, or_false, not_or] at he
  obtain ⟨hspace, htab, hn, hr⟩ := he
  have hblank : isBlank e = false := by
    unfold isBlank
    simp [hspace, htab]
  have hjoin : afterLineJoin? (e :: es) = none := by
    unfold afterLineJoin?
    rw [skipBlanks_cons hblank, afterNewline?_eq_none hn hr]
    rfl
  rw [scanBasicLines, hjoin]
  simp only [h, Option.bind_eq_bind, Option.bind_some]
  cases scanBasicLines fuel cs <;> rfl

/-- A line break stands for itself in a string of several lines. -/
theorem scanBasicLines_newline (fuel : Nat) (cs : List Char) :
    scanBasicLines (fuel + 1) ('\n' :: cs) = withChar '\n' (scanBasicLines fuel cs) := by
  have hline : afterNewline? ('\n' :: cs) = some cs := rfl
  rw [scanBasicLines]
  · simp only [hline]
    cases scanBasicLines fuel cs <;> rfl
  · exact nofun
  · exact nofun

theorem scanBasicLines_plain (hb : c ≠ '\\') (hq : c ≠ '\x22') (hc : isCommentChar c = true) (fuel : Nat)
    (cs : List Char) : scanBasicLines (fuel + 1) (c :: cs) = withChar c (scanBasicLines fuel cs) := by
  obtain ⟨hn, hr⟩ := ne_of_isCommentChar hc
  rw [scanBasicLines]
  · rw [afterNewline?_eq_none hn hr]
    simp only [if_pos hc]
    cases scanBasicLines fuel cs <;> rfl
  · intro cs' h
    exact hq (List.cons.inj h).1
  · intro cs' h
    exact hb (List.cons.inj h).1

/-- One character of a basic string of several lines. -/
def lineChar (c : Char) : List Char := if c = '\n' then [c] else escapeChar c

theorem one_le_length_lineChar (c : Char) : 1 ≤ (lineChar c).length := by
  unfold lineChar
  split
  · exact Nat.le_refl 1
  · exact one_le_length_escapeChar c

/-- **A basic string of several lines is scanned up to its closing quotes.** -/
theorem scanBasicLines_chars (s : List Char) (fuel : Nat) (hf : s.length < fuel)
    (ht : ∀ cs, tail ≠ '\x22' :: cs) :
    scanBasicLines fuel (s.flatMap lineChar ++ '\x22' :: '\x22' :: '\x22' :: tail) = some (s, tail) := by
  induction s generalizing fuel with
  | nil =>
    obtain ⟨fuel, rfl⟩ := Nat.exists_eq_add_of_lt hf
    show scanBasicLines (_ + 1) ('\x22' :: '\x22' :: '\x22' :: tail) = _
    rw [scanBasicLines, closing_quotes ht]
  | cons c s ih =>
    obtain ⟨fuel, rfl⟩ : ∃ n, fuel = n + 1 := ⟨fuel - 1, by omega⟩
    have hrest := ih fuel (by simpa using hf)
    rw [List.flatMap_cons, List.append_assoc]
    unfold lineChar at hrest ⊢
    -- a line break stands for itself here, and everything else is written as on one line
    by_cases hn : c = '\n'
    · subst hn
      rw [if_pos rfl]
      exact (scanBasicLines_newline fuel _).trans (congrArg (withChar '\n') hrest)
    · rw [if_neg hn]
      rcases escapeChar_cases c with ⟨e, es, hc, hscan, he⟩ | ⟨hb, hq, hchar, hc⟩
      · rw [hc]
        exact (scanBasicLines_escape (hscan _) he fuel).trans (congrArg (withChar c) hrest)
      · rw [hc]
        exact (scanBasicLines_plain hb hq hchar fuel _).trans (congrArg (withChar c) hrest)

/-! ### Literal strings of several lines -/

theorem hasTripleApostrophe_tail (h : hasTripleApostrophe (c :: s) = false) :
    hasTripleApostrophe s = false := by
  unfold hasTripleApostrophe at h
  split at h
  · cases h
  · rename_i heq
    rw [(List.cons.inj heq).2]
    exact h
  · rename_i heq
    cases heq

/-- Apostrophes within a literal string are less than three in a row, also where it ends. -/
theorem closing_within (hc : c = '\x27') (ht : hasTripleApostrophe (c :: s) = false)
    (hl : (c :: s).getLast? ≠ some '\x27') (tail : List Char) :
    closing '\x27' (c :: s ++ tail) = some none := by
  subst hc
  have hrun : (('\x27' :: s ++ tail).takeWhile (· == '\x27')).length < 3 := by
    match s with
    | [] => exact absurd rfl hl
    | d :: [] =>
      have hd : d ≠ '\x27' := fun h => hl (by rw [h]; rfl)
      simp [hd]
    | d :: e :: s =>
      by_cases hd : d = '\x27'
      · by_cases he : e = '\x27'
        · rw [hd, he] at ht
          cases ht
        · simp [hd, he]
      · simp [hd]
  unfold closing
  simp only [if_pos hrun]

theorem scanLiteralLines_newline (fuel : Nat) (cs : List Char) :
    scanLiteralLines (fuel + 1) ('\n' :: cs) = withChar '\n' (scanLiteralLines fuel cs) := by
  have hline : afterNewline? ('\n' :: cs) = some cs := rfl
  rw [scanLiteralLines]
  · simp only [hline]
    cases scanLiteralLines fuel cs <;> rfl
  · exact nofun

/-- In a literal string every character stands for itself. -/
theorem scanLiteralLines_plain (hq : c ≠ '\x27') (hc : isCommentChar c = true) (fuel : Nat)
    (cs : List Char) : scanLiteralLines (fuel + 1) (c :: cs) = withChar c (scanLiteralLines fuel cs) := by
  obtain ⟨hn, hr⟩ := ne_of_isCommentChar hc
  rw [scanLiteralLines]
  · rw [afterNewline?_eq_none hn hr]
    simp only [if_pos hc]
    cases scanLiteralLines fuel cs <;> rfl
  · intro cs' h
    exact hq (List.cons.inj h).1

/-- **A literal string of several lines is scanned up to its closing quotes.** -/
theorem scanLiteralLines_chars (s : List Char) (fuel : Nat) (hf : s.length < fuel)
    (hs : ∀ c ∈ s, isCommentChar c = true ∨ c = '\n') (h3 : hasTripleApostrophe s = false)
    (hl : s.getLast? ≠ some '\x27') (ht : ∀ cs, tail ≠ '\x27' :: cs) :
    scanLiteralLines fuel (s ++ '\x27' :: '\x27' :: '\x27' :: tail) = some (s, tail) := by
  induction s generalizing fuel with
  | nil =>
    obtain ⟨fuel, rfl⟩ := Nat.exists_eq_add_of_lt hf
    show scanLiteralLines (_ + 1) ('\x27' :: '\x27' :: '\x27' :: tail) = _
    rw [scanLiteralLines, closing_quotes ht]
  | cons c s ih =>
    obtain ⟨fuel, rfl⟩ : ∃ n, fuel = n + 1 := ⟨fuel - 1, by omega⟩
    obtain ⟨hc, hs⟩ := List.forall_mem_cons.1 hs
    have hlast : s.getLast? ≠ some '\x27' := by
      cases s with
      | nil => exact nofun
      | cons d s => rwa [List.getLast?_cons_cons] at hl
    have hrest := ih fuel (by simpa using hf) hs (hasTripleApostrophe_tail h3) hlast
    by_cases hq : c = '\x27'
    · -- an apostrophe of the text, with what follows it, does not close the string
      have hclose := closing_within hq h3 hl ('\x27' :: '\x27' :: '\x27' :: tail)
      subst hq
      rw [List.cons_append] at hclose ⊢
      rw [scanLiteralLines, hclose]
      simp only [hrest]
      rfl
    · by_cases hn : c = '\n'
      · subst hn
        exact (scanLiteralLines_newline fuel _).trans (congrArg (withChar '\n') hrest)
      · have hchar : isCommentChar c = true := hc.resolve_right hn
        exact (scanLiteralLines_plain hq hchar fuel _).trans (congrArg (withChar c) hrest)

/-! ## Strings -/

theorem hasNewline_iff : s.contains '\n' = true ↔ '\n' ∈ s := List.contains_iff_mem

/-- What is known of a text that is written as a literal string. -/
theorem of_isLiteral (h : isLiteral s = true) : '\\' ∈ s ∧ hasTripleApostrophe s = false ∧
    s.getLast? ≠ some '\x27' ∧ ∀ c ∈ s, isCommentChar c = true ∨ c = '\n' := by
  unfold isLiteral at h
  simp only [Bool.and_eq_true, List.contains_iff_mem, Bool.not_eq_true', bne_iff_ne, List.all_eq_true,
    Bool.or_eq_true, beq_iff_eq] at h
  exact ⟨h.1.1.1, h.1.1.2, h.1.2, h.2⟩

theorem dropNewline_cons (hn : c ≠ '\n') (hr : c ≠ '\r') (cs : List Char) :
    dropNewline (c :: cs) = c :: cs := by
  unfold dropNewline
  rw [afterNewline?_eq_none hn hr]
  rfl

/-- What follows a string on its line is no quote. -/
def NoQuote (tail : List Char) : Prop := (∀ cs, tail ≠ '\x22' :: cs) ∧ ∀ cs, tail ≠ '\x27' :: cs

theorem noQuote_newline (cs : List Char) : NoQuote ('\n' :: cs) := ⟨nofun, nofun⟩

/-- What is scanned as a text, as the value that it makes. -/
def asString (r : Option (List Char × List Char)) : Option (String × List Char) :=
  r.map fun r => (String.ofList r.1, r.2)

theorem scanString_lines (cs : List Char) : scanString ('\x22' :: '\x22' :: '\x22' :: cs) =
    asString (scanBasicLines (cs.length + 1) (dropNewline cs)) := rfl

theorem scanString_literalLines (cs : List Char) : scanString ('\x27' :: '\x27' :: '\x27' :: cs) =
    asString (scanLiteralLines (cs.length + 1) (dropNewline cs)) := rfl

theorem scanString_basic (h : ∀ ds, cs ≠ '\x22' :: '\x22' :: ds) :
    scanString ('\x22' :: cs) = asString (scanBasic (cs.length + 1) cs) := by
  unfold scanString
  split
  · rename_i ds heq
    exact absurd (List.cons.inj heq).2 (h ds)
  · rename_i heq
    rw [← (List.cons.inj heq).2]
    rfl
  · rename_i heq
    exact absurd (List.cons.inj heq).1 (by decide)
  · rename_i heq
    exact absurd (List.cons.inj heq).1 (by decide)
  · rename_i hne _ _
    exact absurd rfl (hne cs)

theorem scanString_literal (h : ∀ ds, cs ≠ '\x27' :: '\x27' :: ds) :
    scanString ('\x27' :: cs) = asString (scanLiteral cs) := by
  unfold scanString
  split
  · rename_i heq
    exact absurd (List.cons.inj heq).1 (by decide)
  · rename_i heq
    exact absurd (List.cons.inj heq).1 (by decide)
  · rename_i ds heq
    exact absurd (List.cons.inj heq).2 (h ds)
  · rename_i heq
    rw [← (List.cons.inj heq).2]
    rfl
  · rename_i hne
    exact absurd rfl (hne cs)

/-- A basic string is scanned as its text. -/
theorem scanString_basicString (s : List Char) (ht : NoQuote tail) :
    scanString (basicString s ++ tail) = some (String.ofList s, tail) := by
  have htext : basicString s ++ tail = '\x22' :: (s.flatMap escapeChar ++ '\x22' :: tail) := by
    simp [basicString]
  have hlength := length_le_flatMap one_le_length_escapeChar s
  rw [htext, scanString_basic, scanBasic_chars]
  · rfl
  · rw [List.length_append]
    omega
  · -- after the opening quote stands no pair of quotes, whether or not the string is empty
    intro ds h
    cases s with
    | nil => exact ht.1 ds (List.cons.inj h).2
    | cons c s =>
      rw [List.flatMap_cons] at h
      rcases escapeChar_cases c with ⟨e, es, hc, -, -⟩ | ⟨-, hq, -, hc⟩
      · rw [hc] at h
        exact absurd (List.cons.inj h).1 (by decide)
      · rw [hc] at h
        exact hq (List.cons.inj h).1

/-- So is a literal string. -/
theorem scanString_isLiteral (h : isLiteral s = true) (ht : NoQuote tail) :
    scanString (stringChars s ++ tail) = some (String.ofList s, tail) := by
  obtain ⟨hback, h3, hl, hall⟩ := of_isLiteral h
  have hlines : ∀ fuel, s.length < fuel →
      scanLiteralLines fuel (s ++ '\x27' :: '\x27' :: '\x27' :: tail) = some (s, tail) :=
    fun fuel hf => scanLiteralLines_chars s fuel hf hall h3 hl ht.2
  unfold stringChars
  rw [if_pos h]
  by_cases hn : s.contains '\n' = true
  · have htext : List.replicate 3 '\x27' ++ '\n' :: s ++ List.replicate 3 '\x27' ++ tail =
        '\x27' :: '\x27' :: '\x27' :: '\n' :: (s ++ '\x27' :: '\x27' :: '\x27' :: tail) := by
      simp [List.replicate]
    have hdrop : dropNewline ('\n' :: (s ++ '\x27' :: '\x27' :: '\x27' :: tail)) =
        s ++ '\x27' :: '\x27' :: '\x27' :: tail := rfl
    rw [if_pos hn, htext, scanString_literalLines, hdrop, hlines]
    · rfl
    · rw [List.length_cons, List.length_append]
      omega
  · have hplain : ∀ c ∈ s, isCommentChar c = true := by
      intro c hc
      refine (hall c hc).resolve_right ?_
      rintro rfl
      exact hn (hasNewline_iff.2 hc)
    rw [if_neg hn]
    by_cases hq : s.contains '\x27' = true
    · have htext : List.replicate 3 '\x27' ++ s ++ List.replicate 3 '\x27' ++ tail =
          '\x27' :: '\x27' :: '\x27' :: (s ++ '\x27' :: '\x27' :: '\x27' :: tail) := by
        simp [List.replicate]
      have hdrop : dropNewline (s ++ '\x27' :: '\x27' :: '\x27' :: tail) =
          s ++ '\x27' :: '\x27' :: '\x27' :: tail := by
        cases s with
        | nil => cases hback
        | cons c s =>
          obtain ⟨hcn, hcr⟩ := ne_of_isCommentChar (hplain c List.mem_cons_self)
          exact dropNewline_cons hcn hcr _
      rw [if_pos hq, htext, scanString_literalLines, hdrop, hlines]
      · rfl
      · rw [List.length_append]
        omega
    · have hnoq : ∀ c ∈ s, c ≠ '\x27' := by
        rintro c hc rfl
        exact hq (List.contains_iff_mem.2 hc)
      have htext : '\x27' :: s ++ ['\x27'] ++ tail = '\x27' :: (s ++ '\x27' :: tail) := by simp
      rw [if_neg hq, htext, scanString_literal, scanLiteral_chars fun c hc => ⟨hplain c hc, hnoq c hc⟩]
      · rfl
      · -- the string holds a backslash, so it is not empty
        intro ds heq
        cases s with
        | nil => cases hback
        | cons c s => exact hnoq c List.mem_cons_self (List.cons.inj heq).1

/-- **A text is scanned from the string written for it**, whichever of the five sorts that is. -/
theorem scanString_chars (s : List Char) (ht : NoQuote tail) :
    scanString (stringChars s ++ tail) = some (String.ofList s, tail) := by
  by_cases h : isLiteral s = true
  · exact scanString_isLiteral h ht
  · unfold stringChars
    rw [if_neg h]
    split
    · have hline : (fun c => if c = '\n' then [c] else escapeChar c) = lineChar := rfl
      have htext : List.replicate 3 '\x22' ++ '\n' :: s.flatMap lineChar ++ List.replicate 3 '\x22' ++ tail =
          '\x22' :: '\x22' :: '\x22' :: '\n' :: (s.flatMap lineChar ++ '\x22' :: '\x22' :: '\x22' :: tail) := by
        simp [List.replicate]
      have hdrop : dropNewline ('\n' :: (s.flatMap lineChar ++ '\x22' :: '\x22' :: '\x22' :: tail)) =
          s.flatMap lineChar ++ '\x22' :: '\x22' :: '\x22' :: tail := rfl
      have hlength := length_le_flatMap one_le_length_lineChar s
      rw [hline, htext, scanString_lines, hdrop, scanBasicLines_chars s _ _ ht.1]
      · rfl
      · rw [List.length_cons, List.length_append]
        omega
    · exact scanString_basicString s ht

/-! ## Keys -/

/-- What follows a key is no part of it. -/
def EndsKey (tail : List Char) : Prop := ∀ c cs, tail = c :: cs → isBareKeyChar c = false

theorem EndsKey.cons (h : isBareKeyChar c = false) (cs : List Char) : EndsKey (c :: cs) := by
  intro d ds hd
  rw [← (List.cons.inj hd).1]
  exact h

/-- A bare key is scanned up to what follows it. -/
theorem takeWhile_bare (hs : ∀ c ∈ s, isBareKeyChar c = true) (ht : EndsKey tail) :
    (s ++ tail).takeWhile isBareKeyChar = s ∧ (s ++ tail).dropWhile isBareKeyChar = tail := by
  have htail : tail.takeWhile isBareKeyChar = [] ∧ tail.dropWhile isBareKeyChar = tail := by
    cases tail with
    | nil => exact ⟨rfl, rfl⟩
    | cons c tail =>
      have hc := ht c tail rfl
      exact ⟨List.takeWhile_cons_of_neg (by simp [hc]), List.dropWhile_cons_of_neg (by simp [hc])⟩
  constructor
  · rw [List.takeWhile_append_of_pos hs, htail.1, List.append_nil]
  · rw [List.dropWhile_append_of_pos hs, htail.2]

theorem scanSimpleKey_bare (hq : c ≠ '\x22') (ha : c ≠ '\x27') (cs : List Char) :
    scanSimpleKey (c :: cs) = if ((c :: cs).takeWhile isBareKeyChar).isEmpty then none
      else some (String.ofList ((c :: cs).takeWhile isBareKeyChar), (c :: cs).dropWhile isBareKeyChar) := by
  unfold scanSimpleKey
  split
  · rename_i h
    exact absurd (List.cons.inj h).1 hq
  · rename_i h
    exact absurd (List.cons.inj h).1 ha
  · rfl

/-- **A key is written bare or as a basic string**, and bare only if it is not empty. -/
theorem keyChars_cases (key : String) :
    (∃ c cs, key = String.ofList (c :: cs) ∧ keyChars key = c :: cs ∧ ∀ d ∈ c :: cs, isBareKeyChar d = true) ∨
      keyChars key = basicString key.toList := by
  unfold keyChars
  by_cases h : (!key.toList.isEmpty && key.toList.all isBareKeyChar) = true
  · left
    rw [if_pos h]
    rw [Bool.and_eq_true, List.all_eq_true] at h
    obtain ⟨hne, hall⟩ := h
    cases hk : key.toList with
    | nil =>
      rw [hk] at hne
      cases hne
    | cons c cs =>
      rw [hk] at hall
      exact ⟨c, cs, by rw [← hk, String.ofList_toList], rfl, hall⟩
  · exact .inr (if_neg h)

/-- **A key is scanned from the text written for it.** -/
theorem scanSimpleKey_keyChars (key : String) (ht : EndsKey tail) :
    scanSimpleKey (keyChars key ++ tail) = some (key, tail) := by
  rcases keyChars_cases key with ⟨c, cs, hkey, hchars, hall⟩ | hchars
  · -- a bare key begins with no quote, so it is scanned up to what follows it
    have hc : isBareKeyChar c = true := hall c List.mem_cons_self
    have hq : c ≠ '\x22' := by
      rintro rfl
      exact absurd hc (by decide)
    have ha : c ≠ '\x27' := by
      rintro rfl
      exact absurd hc (by decide)
    obtain ⟨htake, hdrop⟩ := takeWhile_bare hall ht
    rw [List.cons_append] at htake hdrop
    rw [hchars, List.cons_append, scanSimpleKey_bare hq ha, htake, hdrop, hkey]
    rfl
  · have htext : basicString key.toList ++ tail =
        '\x22' :: (key.toList.flatMap escapeChar ++ '\x22' :: tail) := by
      simp [basicString]
    have hlength := length_le_flatMap one_le_length_escapeChar key.toList
    rw [hchars, htext]
    show (scanBasic _ _).map (fun r => (String.ofList r.1, r.2)) = _
    rw [scanBasic_chars, Option.map_some, String.ofList_toList]
    rw [List.length_append]
    omega

/-- A key is not empty, and begins with no blank, point or bracket. -/
theorem exists_keyChars (key : String) : ∃ c cs, keyChars key = c :: cs ∧
    (isBareKeyChar c = true ∨ c = '\x22') := by
  rcases keyChars_cases key with ⟨c, cs, -, hchars, hall⟩ | hchars
  · exact ⟨c, cs, hchars, .inl (hall c List.mem_cons_self)⟩
  · exact ⟨_, _, hchars, .inr rfl⟩

theorem skipBlanks_keyChars (key : String) (tail : List Char) :
    skipBlanks (keyChars key ++ tail) = keyChars key ++ tail := by
  obtain ⟨c, cs, hkey, hc⟩ := exists_keyChars key
  have hblank : isBlank c = false := by
    rcases hc with hc | rfl
    · unfold isBlank
      rw [Bool.or_eq_false_iff, beq_eq_false_iff_ne, beq_eq_false_iff_ne]
      constructor
      · rintro rfl
        exact absurd hc (by decide)
      · rintro rfl
        exact absurd hc (by decide)
    · rfl
  rw [hkey, List.cons_append, skipBlanks_cons hblank]

/-- A path is written with its first key in front, and a dot after it. -/
theorem pathChars_cons (k key : String) (path : List String) :
    pathChars (k :: (path ++ [key])) = keyChars k ++ '.' :: pathChars (path ++ [key]) := by
  unfold pathChars
  cases path with
  | nil => rfl
  | cons l path => rfl

/-- **A dotted name is scanned key by key**, up to what follows it and its blanks. -/
theorem scanKey_path (path : List String) (key : String) (fuel : Nat) (hf : path.length < fuel)
    (ht : EndsKey tail) (hdot : ∀ cs, skipBlanks tail ≠ '.' :: cs) :
    scanKey fuel (pathChars (path ++ [key]) ++ tail) = some (path, key, skipBlanks tail) := by
  -- on the tables named before the key; each takes one unit of fuel
  induction path generalizing fuel with
  | nil =>
    obtain ⟨fuel, rfl⟩ := Nat.exists_eq_add_of_lt hf
    have htext : pathChars ([] ++ [key]) = keyChars key := by simp [pathChars]
    rw [htext, scanKey, skipBlanks_keyChars, scanSimpleKey_keyChars key ht]
    simp only [Option.bind_eq_bind, Option.bind_some]
    rfl
  | cons k path ih =>
    obtain ⟨fuel, rfl⟩ : ∃ n, fuel = n + 1 := ⟨fuel - 1, by omega⟩
    have hkey : EndsKey ('.' :: (pathChars (path ++ [key]) ++ tail)) := .cons rfl _
    have hrest := ih fuel (by simpa using hf)
    have hblank : skipBlanks ('.' :: (pathChars (path ++ [key]) ++ tail)) =
        '.' :: (pathChars (path ++ [key]) ++ tail) := skipBlanks_cons rfl _
    rw [List.cons_append, pathChars_cons, List.append_assoc, List.cons_append, scanKey, skipBlanks_keyChars,
      scanSimpleKey_keyChars k hkey]
    simp only [Option.bind_eq_bind, Option.bind_some, hblank, hrest]
    rfl

/-! ## Numbers -/

theorem isDigit_underscore : Decimal.isDigit '_' = false := by decide

/-- **Digits are scanned up to what is none.** -/
theorem scanMore_digits {ds : List Char} (hds : ∀ d ∈ ds, Decimal.isDigit d = true)
    (hc : Decimal.isDigit c = false) (hu : c ≠ '_') (tail : List Char) :
    scanMore Decimal.isDigit (ds ++ c :: tail) = some (ds, c :: tail) := by
  induction ds with
  | nil =>
    rw [List.nil_append, scanMore]
    · rw [if_neg (by simp [hc])]
    · exact fun h _ => hu h
    · exact fun _ _ h _ => hu h
  | cons d ds ih =>
    obtain ⟨hd, hds⟩ := List.forall_mem_cons.1 hds
    have hdu : d ≠ '_' := by
      rintro rfl
      rw [isDigit_underscore] at hd
      cases hd
    rw [List.cons_append, scanMore]
    · rw [if_pos hd, ih hds]
      rfl
    · exact fun h _ => hdu h
    · exact fun _ _ h _ => hdu h

/-- Digits are scanned up to what follows them. -/
theorem scanDigits_digits {ds : List Char} (hne : ds ≠ []) (hds : ∀ d ∈ ds, Decimal.isDigit d = true)
    (hc : Decimal.isDigit c = false) (hu : c ≠ '_') (tail : List Char) :
    scanDigits Decimal.isDigit (ds ++ c :: tail) = some (ds, c :: tail) := by
  cases ds with
  | nil => exact absurd rfl hne
  | cons d ds =>
    obtain ⟨hd, hds⟩ := List.forall_mem_cons.1 hds
    have hmore := scanMore_digits hds hc hu tail
    rw [List.cons_append, scanDigits, if_pos hd, hmore]
    rfl

/-- A numeral: digits, of which the first is zero only if there is no other. -/
structure IsNumeral (ds : List Char) : Prop where
  ne_nil : ds ≠ []
  digits : ∀ d ∈ ds, Decimal.isDigit d = true
  zero : ds.head? = some '0' → ds = ['0']

/-- The digits of a number are a numeral. -/
theorem isNumeral_digits (n : Nat) : IsNumeral (Decimal.digits n) where
  ne_nil := Decimal.digits_ne_nil n
  digits _ h := Decimal.isDigit_of_mem_digits h
  zero h := by
    by_cases hn : n = 0
    · subst hn
      rw [Decimal.digits_of_lt (by omega)]
      rfl
    · obtain ⟨d, hpos, hlt, hd⟩ := Decimal.head?_digits hn
      rw [hd] at h
      have hval := Decimal.digitValue_digitChar hlt
      rw [Option.some.inj h] at hval
      exact absurd hval.symm (by simpa [Decimal.digitValue] using Nat.ne_of_gt hpos)

namespace IsNumeral

variable {ds : List Char}

/-- A text that begins with a numeral begins with a digit. -/
theorem append_ne (h : IsNumeral ds) {d : Char} (hd : Decimal.isDigit d = false) (tail cs : List Char) :
    ds ++ tail ≠ d :: cs := by
  intro heq
  cases ds with
  | nil => exact absurd rfl h.ne_nil
  | cons e ds =>
    have he := h.digits e List.mem_cons_self
    rw [(List.cons.inj heq).1, hd] at he
    cases he

/-- Of a text that begins with a zero, the zero is the whole numeral. -/
theorem eq_of_append_eq (h : IsNumeral ds) (heq : ds ++ tail = '0' :: cs) : ds = ['0'] ∧ tail = cs := by
  cases ds with
  | nil => exact absurd rfl h.ne_nil
  | cons d ds =>
    obtain ⟨rfl, htail⟩ := List.cons.inj heq
    obtain rfl : ds = [] := (List.cons.inj (h.zero rfl)).2
    exact ⟨rfl, htail⟩

end IsNumeral

/-- What may follow the whole part of a number that was written: the end of the line, or the point. -/
def EndsWhole (c : Char) : Prop := c = '\n' ∨ c = '.'

theorem EndsWhole.isDigit (h : EndsWhole c) : Decimal.isDigit c = false := by
  rcases h with rfl | rfl <;> decide

theorem EndsWhole.ne {d : Char} (h : EndsWhole c) (hn : d ≠ '\n') (hp : d ≠ '.') : c ≠ d := by
  rcases h with rfl | rfl
  · exact hn.symm
  · exact hp.symm

variable {ds : List Char}

/-- A numeral is scanned as the whole part of a number. -/
theorem scanWhole_numeral (h : IsNumeral ds) (hc : EndsWhole c) (tail : List Char) :
    scanWhole (ds ++ c :: tail) = some (ds, c :: tail) := by
  unfold scanWhole
  split
  · rename_i cs heq
    obtain ⟨rfl, htail⟩ := h.eq_of_append_eq heq
    rw [← htail]
  · exact scanDigits_digits h.ne_nil h.digits hc.isDigit (hc.ne (by decide) (by decide)) tail

/-- Of digits with something else after them, no more are read than there are. -/
theorem readDigits_digits (hds : ∀ d ∈ ds, Decimal.isDigit d = true) (hc : Decimal.isDigit c = false)
    (n : Nat) (tail : List Char) : readDigits n (ds ++ c :: tail) = none ∨
      ∃ v, readDigits n (ds ++ c :: tail) = some (v, ds.drop n ++ c :: tail) := by
  unfold readDigits
  by_cases hn : n ≤ ds.length
  · right
    have htake : (ds ++ c :: tail).take n = ds.take n := List.take_append_of_le_length hn
    have hdrop : (ds ++ c :: tail).drop n = ds.drop n ++ c :: tail := List.drop_append_of_le_length hn
    have hall : (ds.take n).length = n ∧ (ds.take n).all Decimal.isDigit = true :=
      ⟨List.length_take_of_le hn, List.all_eq_true.2 fun d hd => hds d (List.mem_of_mem_take hd)⟩
    rw [htake, hdrop, if_pos hall]
    exact ⟨_, rfl⟩
  · left
    rw [if_neg]
    rintro ⟨-, hall⟩
    -- among so many characters is the one after the digits
    have hmem : c ∈ (ds ++ c :: tail).take n := by
      rw [List.mem_take_iff_getElem]
      refine ⟨ds.length, ?_, by simp⟩
      rw [List.length_append, List.length_cons]
      omega
    rw [List.all_eq_true.1 hall c hmem] at hc
    cases hc

theorem expect_digits (hds : ∀ d ∈ ds, Decimal.isDigit d = true) {e : Char} (he : Decimal.isDigit e = false)
    (hce : c ≠ e) (n : Nat) (tail : List Char) : expect e (ds.drop n ++ c :: tail) = none := by
  cases hdrop : ds.drop n with
  | nil => exact if_neg hce.symm
  | cons d rest =>
    have hd := hds d (List.mem_of_mem_drop (by rw [hdrop]; exact List.mem_cons_self))
    refine if_neg ?_
    rintro rfl
    rw [hd] at he
    cases he

/-- A date-time begins with a digit. -/
theorem beginsDatetime_cons (hc : Decimal.isDigit c = false) (cs : List Char) :
    beginsDatetime (c :: cs) = false := by
  have hnone : ∀ n, readDigits (n + 1) (c :: cs) = none := by
    intro n
    refine if_neg ?_
    rintro ⟨-, hall⟩
    have hdigit := List.all_eq_true.1 hall c List.mem_cons_self
    rw [hc] at hdigit
    cases hdigit
  unfold beginsDatetime
  rw [hnone, hnone]
  rfl

/-- No date-time begins with the digits of a number. -/
theorem beginsDatetime_digits (hds : ∀ d ∈ ds, Decimal.isDigit d = true) (hc : EndsWhole c)
    (tail : List Char) : beginsDatetime (ds ++ c :: tail) = false := by
  -- a date begins with four digits and a dash, a time with two and a colon: neither mark is `c` or a digit
  have hpart : ∀ (n : Nat) (e : Char), Decimal.isDigit e = false → c ≠ e →
      ((readDigits n (ds ++ c :: tail)).bind fun r => expect e r.2).isSome = false := by
    intro n e he hce
    rcases readDigits_digits hds hc.isDigit n tail with h | ⟨v, h⟩
    · rw [h]
      rfl
    · rw [h, Option.bind_some, expect_digits hds he hce]
      rfl
  unfold beginsDatetime
  rw [hpart 4 '-' (by decide) (hc.ne (by decide) (by decide)),
    hpart 2 ':' (by decide) (hc.ne (by decide) (by decide))]
  rfl

/-- A numeral is the beginning of a number, and of no date. -/
theorem scanNumber_numeral (h : IsNumeral ds) (hc : EndsWhole c) (tail : List Char) :
    scanNumber (ds ++ c :: tail) = scanUnsigned false (ds ++ c :: tail) := by
  -- after a zero stands the end of the whole part, so no letter of a base
  have hbase : ∀ e ∈ ['x', 'o', 'b'], ∀ cs, ds ++ c :: tail ≠ '0' :: e :: cs := by
    intro e he cs heq
    obtain ⟨-, htail⟩ := h.eq_of_append_eq heq
    rw [← (List.cons.inj htail).1] at he
    rcases hc with rfl | rfl <;> exact absurd he (by decide)
  have hsign : scanSign (ds ++ c :: tail) = (false, ds ++ c :: tail) := by
    unfold scanSign
    split
    · rename_i heq
      exact absurd heq (h.append_ne (by decide) _ _)
    · rename_i heq
      exact absurd heq (h.append_ne (by decide) _ _)
    · rfl
  unfold scanNumber
  rw [beginsDatetime_digits h.digits hc, if_neg Bool.false_ne_true]
  split
  · rename_i cs heq
    exact absurd heq (hbase 'x' (by decide) cs)
  · rename_i cs heq
    exact absurd heq (hbase 'o' (by decide) cs)
  · rename_i cs heq
    exact absurd heq (hbase 'b' (by decide) cs)
  · simp only [hsign]

theorem scanNumber_neg (cs : List Char) : scanNumber ('-' :: cs) = scanUnsigned true cs := by
  unfold scanNumber
  rw [beginsDatetime_cons (by decide)]
  rfl

/-- A numeral alone on the rest of its line is an integer. -/
theorem scanUnsigned_digits (h : IsNumeral ds) (negative : Bool) (tail : List Char) :
    scanUnsigned negative (ds ++ '\n' :: tail) =
      (integerOf (if negative then -Decimal.value ds else Decimal.value ds)).map fun v => (v, '\n' :: tail) := by
  unfold scanUnsigned
  split
  · rename_i heq
    exact absurd heq (h.append_ne (by decide) _ _)
  · rename_i heq
    exact absurd heq (h.append_ne (by decide) _ _)
  · rw [scanWhole_numeral h (.inl rfl)]
    simp only [Option.bind_eq_bind, Option.bind_some]
    cases integerOf (if negative then -Decimal.value ds else Decimal.value ds) <;> rfl

/-- With a point and more digits it is a double. -/
theorem scanUnsigned_point (h : IsNumeral ds) {fs : List Char} (hne : fs ≠ [])
    (hfs : ∀ d ∈ fs, Decimal.isDigit d = true) (negative : Bool) (tail : List Char) :
    scanUnsigned negative (ds ++ '.' :: (fs ++ '\n' :: tail)) =
      (floatOf negative ds fs 0).map fun v => (v, '\n' :: tail) := by
  unfold scanUnsigned
  split
  · rename_i heq
    exact absurd heq (h.append_ne (by decide) _ _)
  · rename_i heq
    exact absurd heq (h.append_ne (by decide) _ _)
  · have hletter : ¬('\n' = 'e' ∨ '\n' = 'E') := by decide
    rw [scanWhole_numeral h (.inr rfl)]
    simp only [Option.bind_eq_bind, Option.bind_some, if_neg hletter, scanDigits_digits hne hfs (c := '\n') (by decide) (by decide)]
    cases floatOf negative ds fs 0 <;> rfl

/-- An integer of 64 bits. -/
theorem integerOf_eq {n : Int} (h : -0x8000000000000000 ≤ n ∧ n < 0x8000000000000000) :
    integerOf n = some (.integer n) := if_pos h

/-- **An integer is scanned from its numeral.** -/
theorem scanNumber_ofInt {n : Int} (h : -0x8000000000000000 ≤ n ∧ n < 0x8000000000000000)
    (tail : List Char) :
    scanNumber ((Decimal.ofInt n).toList ++ '\n' :: tail) = some (.integer n, '\n' :: tail) := by
  cases n with
  | ofNat n =>
    have htext : (Decimal.ofInt (.ofNat n)).toList = Decimal.digits n := Decimal.toList_ofNat n
    rw [htext, scanNumber_numeral (isNumeral_digits n) (.inl rfl), scanUnsigned_digits (isNumeral_digits n),
      Decimal.value_digits]
    exact congrArg (Option.map _) (integerOf_eq h)
  | negSucc n =>
    have htext : (Decimal.ofInt (.negSucc n)).toList = '-' :: Decimal.digits (n + 1) := by
      show ("-" ++ Decimal.ofNat (n + 1)).toList = _
      rw [String.toList_append, Decimal.toList_ofNat]
      rfl
    rw [htext, List.cons_append, scanNumber_neg, scanUnsigned_digits (isNumeral_digits _),
      Decimal.value_digits]
    exact congrArg (Option.map _) (integerOf_eq h)

/-! ## Values within a line -/

/-- A double that is scanned from its text, at the end of a line. -/
def IsReadBack (x : Binary64) : Prop :=
  ∀ tail, scanNumber ((floats.write x).toList ++ '\n' :: tail) = some (.float x, '\n' :: tail)

/-- A finite double is scanned back if its text has a fraction and the sign and the parts of the text make
it. -/
theorem isReadBack_of_parts {x : Binary64} (hx : x.isFinite = true) {negative : Bool} {fs : List Char}
    (htext : (floats.write x).toList = (if negative then ['-'] else []) ++ ds ++ '.' :: fs) (hds : IsNumeral ds)
    (hne : fs ≠ []) (hfs : ∀ d ∈ fs, Decimal.isDigit d = true)
    (hvalue : Binary64.ofDecimal negative (Decimal.value (ds ++ fs)) (0 - fs.length) = x) : IsReadBack x := by
  intro tail
  -- a number out of range would be read as infinite, and is refused
  have hinfinity : x ≠ .infinity false := by
    rintro rfl
    cases hx
  have hfloat : floatOf negative ds fs 0 = some (.float x) := by
    unfold floatOf
    rw [hvalue]
    exact if_neg hinfinity
  have hscan : scanNumber ((floats.write x).toList ++ '\n' :: tail) =
      scanUnsigned negative (ds ++ '.' :: (fs ++ '\n' :: tail)) := by
    rw [htext]
    cases negative with
    | false =>
      rw [if_neg Bool.false_ne_true, List.nil_append, List.append_assoc, List.cons_append]
      exact scanNumber_numeral hds (.inr rfl) _
    | true =>
      rw [if_pos rfl, List.append_assoc, List.append_assoc, List.cons_append]
      exact scanNumber_neg _
  rw [hscan, scanUnsigned_point hds hne hfs, hfloat]
  rfl

/-- A value that stands in the line of its key and is scanned from there. -/
def Value.IsPlain : Value → Prop
  | .string _ | .boolean _ => True
  | .integer n => -0x8000000000000000 ≤ n ∧ n < 0x8000000000000000
  | .float x => IsReadBack x
  | .datetime _ | .array _ | .table _ => False

/-- The characters with which no number begins. -/
def beginsOther (c : Char) : Bool := c ∈ ['\x22', '\x27', '[', '\x7b', 't', 'f', '\n', ' ', '\t']

/-- What begins with another character is no number. -/
theorem scanNumber_eq_none (h : beginsOther c = true) (cs : List Char) : scanNumber (c :: cs) = none := by
  unfold beginsOther at h
  simp only [List.mem_cons, List.not_mem_nil, or_false, decide_eq_true_eq] at h
  have hdigit : Decimal.isDigit c = false := by
    rcases h with rfl | rfl | rfl | rfl | rfl | rfl | rfl | rfl | rfl <;> decide
  unfold scanNumber
  rw [beginsDatetime_cons hdigit, if_neg Bool.false_ne_true]
  rcases h with rfl | rfl | rfl | rfl | rfl | rfl | rfl | rfl | rfl <;> rfl

/-- What is scanned as a number is a value. -/
theorem scanValue_number {v : Value} {rest : List Char} (h : scanNumber (c :: cs) = some (v, rest))
    (fuel : Nat) : scanValue (fuel + 1) (c :: cs) = some (v, rest) := by
  have hother : beginsOther c = false := by
    cases hc : beginsOther c with
    | false => rfl
    | true => rw [scanNumber_eq_none hc] at h; cases h
  unfold beginsOther at hother
  simp only [List.mem_cons, List.not_mem_nil, or_false, decide_eq_false_iff_not, not_or] at hother
  obtain ⟨hq, ha, hb, hbrace, ht, hf, -⟩ := hother
  rw [scanValue, if_neg (by simp [hq, ha]), if_neg hb, if_neg hbrace]
  split
  · rename_i heq
    exact absurd (List.cons.inj heq).1 ht
  · rename_i heq
    exact absurd (List.cons.inj heq).1 hf
  · exact h

/-- A string begins with a quote. -/
theorem exists_stringChars (s : List Char) : ∃ c cs, stringChars s = c :: cs ∧ (c = '\x22' ∨ c = '\x27') := by
  unfold stringChars
  dsimp only
  split
  · split
    · exact ⟨_, _, rfl, .inr rfl⟩
    · split
      · exact ⟨_, _, rfl, .inr rfl⟩
      · exact ⟨_, _, rfl, .inr rfl⟩
  · split
    · exact ⟨_, _, rfl, .inl rfl⟩
    · exact ⟨_, _, rfl, .inl rfl⟩

/-- **A plain value is scanned from its line**, after the blank that stands before it. -/
theorem scanValue_plain {v : Value} (h : v.IsPlain) (fuel : Nat) (tail : List Char) :
    scanValue (fuel + 1) (skipBlanks (' ' :: (valueChars v ++ '\n' :: tail))) = some (v, '\n' :: tail) := by
  have hspace : ∀ cs, skipBlanks (' ' :: cs) = skipBlanks cs := fun _ => rfl
  -- a number begins with no blank, as none is scanned from one
  have hnumber : ∀ {cs : List Char} {v : Value}, scanNumber (cs ++ '\n' :: tail) = some (v, '\n' :: tail) →
      scanValue (fuel + 1) (skipBlanks (cs ++ '\n' :: tail)) = some (v, '\n' :: tail) := by
    intro cs v hscan
    cases cs with
    | nil => rw [List.nil_append, scanNumber_eq_none (by decide)] at hscan; cases hscan
    | cons c cs =>
      have hblank : isBlank c = false := by
        cases hb : isBlank c with
        | false => rfl
        | true =>
          have hother : beginsOther c = true := by
            unfold isBlank at hb
            simp only [Bool.or_eq_true, beq_iff_eq] at hb
            rcases hb with rfl | rfl <;> decide
          rw [List.cons_append, scanNumber_eq_none hother] at hscan
          cases hscan
      rw [List.cons_append, skipBlanks_cons hblank]
      exact scanValue_number hscan fuel
  rw [hspace]
  cases v with
  | string s =>
    obtain ⟨c, cs, htext, hc⟩ := exists_stringChars s.toList
    have hblank : isBlank c = false := by
      rcases hc with rfl | rfl <;> rfl
    have hscan := scanString_chars s.toList (noQuote_newline tail)
    have hchars : valueChars (.string s) = stringChars s.toList := by rw [valueChars]
    rw [htext, List.cons_append] at hscan
    rw [hchars, htext, List.cons_append, skipBlanks_cons hblank, scanValue, if_pos hc, hscan, Option.map_some,
      String.ofList_toList]
  | integer n =>
    have hchars : valueChars (.integer n) = (Decimal.ofInt n).toList := by rw [valueChars]
    rw [hchars]
    exact hnumber (scanNumber_ofInt h tail)
  | float x =>
    have hchars : valueChars (.float x) = (floats.write x).toList := by rw [valueChars]
    rw [hchars]
    exact hnumber (h tail)
  | boolean b =>
    cases b with
    | true => rw [valueChars]; rfl
    | false => rw [valueChars]; rfl
  | datetime d => exact h.elim
  | array items => exact h.elim
  | table entries => exact h.elim

end GuestDisks.Toml
