import GuestDisks.Proofs.JsonTokens

/-!
# JSON values, printed and read

The compact and the indented text of a value differ in their blanks alone; both are a `Text` of it. A
text of a value is read as the value's draft, whatever stands around it (`Text.readsAs`), so what is
printed is read back whole (`readDraft_compact`, `readDraft_pretty`).
-/

namespace GuestDisks.Json

/-! ## Texts of values -/

mutual

/-- The texts of a value, with blanks after punctuation and before closing brackets. -/
inductive Text : Json → List Char → Prop
  | null : Text .null ['n', 'u', 'l', 'l']
  | true : Text (.boolean true) ['t', 'r', 'u', 'e']
  | false : Text (.boolean false) ['f', 'a', 'l', 's', 'e']
  | integer {n : Int} (h : FitsWord n) : Text (.integer n) (Decimal.ofInt n).toList
  | real {x : Binary64} (h : IsReadBack x) : Text (.real x) (reals.write x).toList
  | string (s : String) : Text (.string s) (quoted s)
  | noItems : Text (.array []) ['[', ']']
  | items {j : Json} {js : List Json} {b cs ds : List Char} (hb : Blank b) (hj : Text j cs)
    (hjs : ItemsText js ds) : Text (.array (j :: js)) ('[' :: (b ++ cs ++ ds))
  | noMembers : Text (.object []) ['\x7b', '\x7d']
  | members {k : String} {j : Json} {ms : List (String × Json)} {b b' cs ds : List Char} (hb : Blank b)
    (hb' : Blank b') (hj : Text j cs) (hms : MembersText ms ds) :
    Text (.object ((k, j) :: ms)) ('\x7b' :: (b ++ quoted k ++ ':' :: (b' ++ cs ++ ds)))

/-- The texts of the items after the first, with the closing bracket. -/
inductive ItemsText : List Json → List Char → Prop
  | close {b : List Char} (hb : Blank b) : ItemsText [] (b ++ [']'])
  | next {j : Json} {js : List Json} {b cs ds : List Char} (hb : Blank b) (hj : Text j cs)
    (hjs : ItemsText js ds) : ItemsText (j :: js) (',' :: (b ++ cs ++ ds))

/-- The texts of the members after the first, with the closing brace. -/
inductive MembersText : List (String × Json) → List Char → Prop
  | close {b : List Char} (hb : Blank b) : MembersText [] (b ++ ['\x7d'])
  | next {k : String} {j : Json} {ms : List (String × Json)} {b b' cs ds : List Char} (hb : Blank b)
    (hb' : Blank b') (hj : Text j cs) (hms : MembersText ms ds) :
    MembersText ((k, j) :: ms) (',' :: (b ++ quoted k ++ ':' :: (b' ++ cs ++ ds)))

end

/-- A text is read as a value if it is whatever ends it, up to blanks. -/
def ReadsAs (cs : List Char) (d : Draft) : Prop :=
  ∀ fuel tail, cs.length ≤ fuel → Ends tail →
    ∃ rest, readValue (fuel + 1) (cs ++ tail) = (d, some rest) ∧ skipBlanks rest = skipBlanks tail

/-- Blanks before a value are passed over. -/
theorem readValue_blanks {b : List Char} (hb : Blank b) (fuel : Nat) (cs : List Char) :
    readValue fuel (b ++ cs) = readValue fuel cs := by
  cases fuel with
  | zero => rfl
  | succ fuel => rw [readValue, readValue, skipBlanks_append hb]

theorem readValue_skipBlanks (fuel : Nat) (cs : List Char) :
    readValue fuel (skipBlanks cs) = readValue fuel cs := by
  cases fuel with
  | zero => rfl
  | succ fuel => rw [readValue, readValue, skipBlanks_skipBlanks]

/-- A quote begins a string. -/
theorem readValue_quote {fuel : Nat} {cs rest : List Char} {s : Option (List Char)}
    (h : readString (cs.length + 1) cs = some (s, rest)) :
    readValue (fuel + 1) ('\x22' :: cs) = (stringDraft s, some rest) := by
  have hblank : skipBlanks ('\x22' :: cs) = '\x22' :: cs := rfl
  rw [readValue, hblank]
  simp only [if_true, h]

/-- A bracket begins items, unless the other one follows. -/
theorem readValue_bracket (fuel : Nat) {cs : List Char} (h : ∀ rest, skipBlanks cs ≠ ']' :: rest) :
    readValue (fuel + 1) ('[' :: cs) = (.array (readItems fuel (skipBlanks cs)).1
      (readItems fuel (skipBlanks cs)).2.1, (readItems fuel (skipBlanks cs)).2.2) := by
  have hblank : skipBlanks ('[' :: cs) = '[' :: cs := rfl
  have hquote : ¬ '[' = '\x22' := by decide
  rw [readValue, hblank]
  simp only [if_neg hquote, if_true]

/-- A brace begins members, unless the other one follows. -/
theorem readValue_brace (fuel : Nat) {cs : List Char} (h : ∀ rest, skipBlanks cs ≠ '\x7d' :: rest) :
    readValue (fuel + 1) ('\x7b' :: cs) = (.object (readMembers fuel (skipBlanks cs)).1
      (readMembers fuel (skipBlanks cs)).2.1, (readMembers fuel (skipBlanks cs)).2.2) := by
  have hblank : skipBlanks ('\x7b' :: cs) = '\x7b' :: cs := rfl
  have hquote : ¬ '\x7b' = '\x22' := by decide
  have hbracket : ¬ '\x7b' = '[' := by decide
  rw [readValue, hblank]
  simp only [if_neg hquote, if_neg hbracket, if_true]

theorem readsAs_null : ReadsAs ['n', 'u', 'l', 'l'] .null := fun _ tail _ _ => ⟨tail, rfl, rfl⟩

theorem readsAs_true : ReadsAs ['t', 'r', 'u', 'e'] (.boolean true) := fun _ tail _ _ => ⟨tail, rfl, rfl⟩

theorem readsAs_false : ReadsAs ['f', 'a', 'l', 's', 'e'] (.boolean false) :=
  fun _ tail _ _ => ⟨tail, rfl, rfl⟩

/-- A quoted text is read as the text. -/
theorem readsAs_string (s : String) : ReadsAs (quoted s) (.string s) := by
  intro fuel tail _ _
  have hlength := length_le_escaped s.toList
  refine ⟨tail, ?_, rfl⟩
  have hquoted : quoted s ++ tail = '\x22' :: (s.toList.flatMap escapeChar ++ '\x22' :: tail) := by
    unfold quoted
    simp
  have hread := readString_chars s.toList ((s.toList.flatMap escapeChar ++ '\x22' :: tail).length + 1)
    (by rw [List.length_append]; omega) tail
  rw [hquoted, readValue_quote hread]
  show (Draft.string (String.ofList s.toList), some tail) = _
  rw [String.ofList_toList]

theorem isBlank_of_isDigit {c : Char} (h : Decimal.isDigit c = true) : isBlank c = false := by
  rw [Bool.eq_false_iff]
  intro hb
  unfold isBlank at hb
  simp only [Bool.or_eq_true, beq_iff_eq] at hb
  rcases hb with ((rfl | rfl) | rfl) | rfl <;> cases h

/-- A number is read after its sign. -/
theorem readValue_number {negative : Bool} {cs rest : List Char} {d : Draft} (fuel : Nat)
    (h : readNumber negative cs = (d, some rest)) :
    readValue (fuel + 1) ((if negative then ['-'] else []) ++ cs) = (d, some rest) := by
  cases negative with
  | true =>
    rw [readValue]
    exact h
  | false =>
    -- a number without a sign begins with a digit, as no other value does
    cases cs with
    | nil => cases h
    | cons c cs =>
      have hc : Decimal.isDigit c = true := by
        by_contra hc
        rw [readNumber_eq] at h
        unfold digitsOf at h
        rw [List.takeWhile_cons_of_neg hc] at h
        cases h
      show readValue (fuel + 1) (c :: cs) = _
      rw [readValue, skipBlanks_cons (isBlank_of_isDigit hc)]
      have hne : ∀ a, Decimal.isDigit a = false → c ≠ a := by
        rintro a ha rfl
        rw [hc] at ha
        cases ha
      simp only [if_neg (hne '\x22' (by decide)), if_neg (hne '[' (by decide)),
        if_neg (hne '\x7b' (by decide)), if_neg (hne '-' (by decide)), if_pos hc]
      exact h

/-- An integer that fits 64 bits is read as itself. -/
theorem readsAs_integer {n : Int} (h : FitsWord n) : ReadsAs (Decimal.ofInt n).toList (.integer n) := by
  intro fuel tail _ ht
  obtain ⟨hlow, hhigh⟩ := h
  refine ⟨tail, ?_, rfl⟩
  cases n with
  | ofNat n =>
    have hread := readNumber_digits false n
    have hn : (n : Int) < 0x10000000000000000 := hhigh
    rw [numberOf_digits (by omega)] at hread
    have hvalue := readValue_number fuel (readNumber_append ht hread)
    show readValue (fuel + 1) ((Decimal.ofNat n).toList ++ tail) = _
    rw [Decimal.toList_ofNat]
    exact hvalue
  | negSucc n =>
    have hread := readNumber_digits true (n + 1)
    rw [numberOf_digits_neg (by omega) (by omega)] at hread
    have hvalue := readValue_number fuel (readNumber_append ht hread)
    show readValue (fuel + 1) (("-" ++ Decimal.ofNat (n + 1)).toList ++ tail) = _
    rw [String.toList_append, Decimal.toList_ofNat]
    exact hvalue

/-- Only numbers are read as doubles. -/
theorem exists_readNumber_of_real {fuel : Nat} {cs rest : List Char} {x : Binary64}
    (h : readValue fuel cs = (.real x, some rest)) :
    ∃ negative ds, skipBlanks cs = (if negative then ['-'] else []) ++ ds ∧
      readNumber negative ds = (.real x, some rest) := by
  cases fuel with
  | zero => cases h
  | succ fuel =>
    rw [readValue] at h
    split at h
    · cases h
    · rename_i c ds hcs
      rw [hcs]
      split at h
      · -- a string is no number, flawed or not
        split at h
        · rename_i s _ _
          cases s <;> cases h
        · cases h
      split at h
      · split at h <;> cases h
      split at h
      · split at h <;> cases h
      split at h
      · rename_i hc
        exact ⟨true, ds, by rw [hc]; rfl, h⟩
      split at h
      · exact ⟨false, c :: ds, rfl, h⟩
      split at h
      · cases h
      split at h
      · cases h
      split at h <;> cases h

/-- A double that can be read back is read as itself. -/
theorem readsAs_real {x : Binary64} (h : IsReadBack x) : ReadsAs (reals.write x).toList (.real x) := by
  intro fuel tail _ ht
  have hchars : (compact (.real x)).toList = (reals.write x).toList := by
    unfold compact
    rw [String.toList_ofList]; rfl
  unfold IsReadBack readDraft at h
  simp only [hchars] at h
  -- all that is known of the text is that it is read to its end, up to blanks
  generalize (reals.write x).toList = cs at h ⊢
  obtain ⟨rest, hread, hrest⟩ : ∃ rest, readValue (cs.length + 1) cs = (.real x, some rest) ∧
      skipBlanks rest = [] := by
    split at h
    · cases h
    · rename_i d rest hread
      obtain ⟨rfl, hend⟩ := Prod.mk.inj h
      exact ⟨rest, hread, List.isEmpty_iff.1 hend⟩
  obtain ⟨negative, ds, hcs, hnumber⟩ := exists_readNumber_of_real hread
  refine ⟨rest ++ tail, ?_, ?_⟩
  · have hne : (skipBlanks cs).isEmpty = false := by
      rw [hcs]
      cases negative with
      | true => rfl
      | false =>
        cases ds with
        | nil => cases hnumber
        | cons d ds => rfl
    have hskip : skipBlanks (cs ++ tail) = (if negative then ['-'] else []) ++ (ds ++ tail) := by
      rw [← List.append_assoc, ← hcs]
      unfold skipBlanks at hne ⊢
      rw [List.dropWhile_append, hne]; rfl
    rw [← readValue_skipBlanks, hskip]
    exact readValue_number fuel (readNumber_append ht hnumber)
  · exact skipBlanks_append (List.dropWhile_eq_nil_iff.1 hrest) tail

/-! ## Arrays and objects -/

theorem draft_ne_broken (j : Json) : draft j ≠ .broken := by
  cases j <;> exact nofun

/-- What is read as a value does not begin like the end of an array. -/
theorem skipBlanks_ne_of_readValue {fuel : Nat} {cs rest : List Char} {d : Draft}
    (h : readValue fuel cs = (d, some rest)) (tail : List Char) : skipBlanks cs ≠ ']' :: tail := by
  intro hc
  cases fuel with
  | zero => cases h
  | succ fuel =>
    rw [readValue, hc] at h
    cases h

/-- What becomes of an item, given the text after it. -/
def afterItem (fuel : Nat) (d : Draft) (cs : List Char) : List Draft × Bool × Option (List Char) :=
  match skipBlanks cs with
  | ']' :: rest => ([d], true, some rest)
  | ',' :: cs =>
    let (ds, whole, rest) := readItems fuel cs
    (d :: ds, whole, rest)
  | _ => ([d], false, none)

theorem readItems_of_readValue {fuel : Nat} {cs rest : List Char} {d : Draft} (hd : d ≠ .broken)
    (h : readValue fuel cs = (d, some rest)) : readItems (fuel + 1) cs = afterItem fuel d rest := by
  rw [readItems, h]
  split
  · rename_i he
    exact absurd (Prod.mk.inj he).1 hd
  · rename_i he
    cases (Prod.mk.inj he).2
  · rename_i he
    cases he; rfl

/-- A text after an item is read as the other items, to the closing bracket. -/
structure ItemsRead (ds : List Char) (js : List Json) : Prop where
  ends : ∀ tail, Ends (ds ++ tail)
  ne_nil : ds ≠ []
  reads : ∀ fuel tail d, ds.length ≤ fuel →
    afterItem fuel d (ds ++ tail) = (d :: draftItems js, true, some tail)

/-- An item is read, and the others after it. -/
theorem readItems_text {j : Json} {js : List Json} {b cs ds : List Char} (hb : Blank b)
    (hj : ReadsAs cs (draft j)) (hjs : ItemsRead ds js) {fuel : Nat} (hf : cs.length + ds.length < fuel)
    (tail : List Char) :
    readItems fuel (b ++ cs ++ ds ++ tail) = (draft j :: draftItems js, true, some tail) := by
  -- one unit of fuel is for the list, and one for the item
  have hpos : 0 < ds.length := List.length_pos_iff.2 hjs.ne_nil
  obtain ⟨fuel, rfl⟩ : ∃ n, fuel = n + 2 := ⟨fuel - 2, by omega⟩
  obtain ⟨rest, hread, hrest⟩ := hj fuel (ds ++ tail) (by omega) (hjs.ends tail)
  have hvalue : readValue (fuel + 1) (b ++ cs ++ ds ++ tail) = (draft j, some rest) := by
    rw [List.append_assoc, List.append_assoc, readValue_blanks hb]
    exact hread
  have hafter : afterItem (fuel + 1) (draft j) rest = afterItem (fuel + 1) (draft j) (ds ++ tail) := by
    unfold afterItem
    rw [hrest]
  rw [readItems_of_readValue (draft_ne_broken j) hvalue, hafter]
  exact hjs.reads (fuel + 1) tail (draft j) (by omega)

/-- The closing bracket ends the items. -/
theorem itemsRead_close {b : List Char} (hb : Blank b) : ItemsRead (b ++ [']']) [] where
  ends tail := by
    rw [List.append_assoc]
    exact .blank_append hb (.cons (by decide) tail)
  ne_nil := by simp
  reads fuel tail d _ := by
    have hskip : skipBlanks (b ++ [']'] ++ tail) = ']' :: tail := by
      rw [List.append_assoc, skipBlanks_append hb]
      rfl
    unfold afterItem
    rw [hskip]; rfl

/-- A comma goes on with the next item. -/
theorem itemsRead_next {j : Json} {js : List Json} {b cs ds : List Char} (hb : Blank b)
    (hj : ReadsAs cs (draft j)) (hjs : ItemsRead ds js) :
    ItemsRead (',' :: (b ++ cs ++ ds)) (j :: js) where
  ends tail := .cons (by decide) _
  ne_nil := List.cons_ne_nil _ _
  reads fuel tail d hf := by
    have hlength : cs.length + ds.length < fuel := by
      simp only [List.length_cons, List.length_append] at hf
      omega
    have hitems := readItems_text hb hj hjs hlength tail
    show (d :: (readItems fuel (b ++ cs ++ ds ++ tail)).1, (readItems fuel (b ++ cs ++ ds ++ tail)).2.1,
      (readItems fuel (b ++ cs ++ ds ++ tail)).2.2) = _
    rw [hitems]; rfl

theorem readItems_skipBlanks (fuel : Nat) (cs : List Char) :
    readItems fuel (skipBlanks cs) = readItems fuel cs := by
  cases fuel with
  | zero => rfl
  | succ fuel => rw [readItems, readItems, readValue_skipBlanks]

theorem readsAs_noItems : ReadsAs ['[', ']'] (draft (.array [])) := fun _ tail _ _ => ⟨tail, rfl, rfl⟩

/-- An array is read item by item. -/
theorem readsAs_items {j : Json} {js : List Json} {b cs ds : List Char} (hb : Blank b)
    (hj : ReadsAs cs (draft j)) (hjs : ItemsRead ds js) :
    ReadsAs ('[' :: (b ++ cs ++ ds)) (draft (.array (j :: js))) := by
  intro fuel tail hf _
  refine ⟨tail, ?_, rfl⟩
  have hlength : cs.length + ds.length < fuel := by
    simp only [List.length_cons, List.length_append] at hf
    omega
  have hitems := readItems_text hb hj hjs hlength tail
  -- the array does not end at once, as an item can be read
  have hbegins : ∀ rest, skipBlanks (b ++ cs ++ ds ++ tail) ≠ ']' :: rest := by
    intro rest
    obtain ⟨after, hread, -⟩ := hj cs.length (ds ++ tail) (Nat.le_refl _) (hjs.ends tail)
    rw [List.append_assoc, List.append_assoc, skipBlanks_append hb]
    exact skipBlanks_ne_of_readValue hread rest
  have hvalue := readValue_bracket fuel hbegins
  rw [readItems_skipBlanks, hitems] at hvalue
  exact hvalue

/-- What becomes of a member, given the text after it. -/
def afterMember (fuel : Nat) (key : Option String) (d : Draft) (cs : List Char) :
    List (Option String × Draft) × Bool × Option (List Char) :=
  match skipBlanks cs with
  | '\x7d' :: rest => ([(key, d)], true, some rest)
  | ',' :: cs =>
    let (ms, whole, rest) := readMembers fuel cs
    ((key, d) :: ms, whole, rest)
  | _ => ([(key, d)], false, none)

theorem readMembers_of_readValue {fuel : Nat} {k : String} {b cs rest : List Char} {d : Draft} (hb : Blank b)
    (h : readValue fuel cs = (d, some rest)) :
    readMembers (fuel + 1) (b ++ quoted k ++ ':' :: cs) = afterMember fuel (some k) d rest := by
  have htext : b ++ quoted k ++ ':' :: cs =
      b ++ '\x22' :: (k.toList.flatMap escapeChar ++ '\x22' :: ':' :: cs) := by
    unfold quoted
    simp
  have hskip : skipBlanks ('\x22' :: (k.toList.flatMap escapeChar ++ '\x22' :: ':' :: cs)) =
      '\x22' :: (k.toList.flatMap escapeChar ++ '\x22' :: ':' :: cs) := rfl
  have hlength := length_le_escaped k.toList
  have hkey := readString_chars k.toList
    ((k.toList.flatMap escapeChar ++ '\x22' :: ':' :: cs).length + 1)
    (by rw [List.length_append]; omega) (':' :: cs)
  rw [htext, readMembers, skipBlanks_append hb, hskip]
  have hk : Option.map String.ofList (some k.toList) = some k := by simp
  have hcolon : skipBlanks (':' :: cs) = ':' :: cs := rfl
  simp only [hkey, hk, hcolon, h]
  rfl

/-- A text after a member is read as the other members, to the closing brace. -/
structure MembersRead (ds : List Char) (ms : List (String × Json)) : Prop where
  ends : ∀ tail, Ends (ds ++ tail)
  ne_nil : ds ≠ []
  reads : ∀ fuel tail key d, ds.length ≤ fuel →
    afterMember fuel key d (ds ++ tail) = ((key, d) :: draftMembers ms, true, some tail)

/-- A member is read under its key, and the others after it. -/
theorem readMembers_text {k : String} {j : Json} {ms : List (String × Json)} {b b' cs ds : List Char}
    (hb : Blank b) (hb' : Blank b') (hj : ReadsAs cs (draft j)) (hms : MembersRead ds ms) {fuel : Nat}
    (hf : cs.length + ds.length < fuel) (tail : List Char) :
    readMembers fuel (b ++ quoted k ++ ':' :: (b' ++ cs ++ ds ++ tail)) =
      ((some k, draft j) :: draftMembers ms, true, some tail) := by
  have hpos : 0 < ds.length := List.length_pos_iff.2 hms.ne_nil
  obtain ⟨fuel, rfl⟩ : ∃ n, fuel = n + 2 := ⟨fuel - 2, by omega⟩
  obtain ⟨rest, hread, hrest⟩ := hj fuel (ds ++ tail) (by omega) (hms.ends tail)
  have hvalue : readValue (fuel + 1) (b' ++ cs ++ ds ++ tail) = (draft j, some rest) := by
    rw [List.append_assoc, List.append_assoc, readValue_blanks hb']
    exact hread
  have hafter : afterMember (fuel + 1) (some k) (draft j) rest =
      afterMember (fuel + 1) (some k) (draft j) (ds ++ tail) := by
    unfold afterMember
    rw [hrest]
  rw [readMembers_of_readValue hb hvalue, hafter]
  exact hms.reads (fuel + 1) tail (some k) (draft j) (by omega)

/-- The closing brace ends the members. -/
theorem membersRead_close {b : List Char} (hb : Blank b) : MembersRead (b ++ ['\x7d']) [] where
  ends tail := by
    rw [List.append_assoc]
    exact .blank_append hb (.cons (by decide) tail)
  ne_nil := by simp
  reads fuel tail key d _ := by
    have hskip : skipBlanks (b ++ ['\x7d'] ++ tail) = '\x7d' :: tail := by
      rw [List.append_assoc, skipBlanks_append hb]
      rfl
    unfold afterMember
    rw [hskip]; rfl

/-- A comma goes on with the next member. -/
theorem membersRead_next {k : String} {j : Json} {ms : List (String × Json)} {b b' cs ds : List Char}
    (hb : Blank b) (hb' : Blank b') (hj : ReadsAs cs (draft j)) (hms : MembersRead ds ms) :
    MembersRead (',' :: (b ++ quoted k ++ ':' :: (b' ++ cs ++ ds))) ((k, j) :: ms) where
  ends tail := .cons (by decide) _
  ne_nil := List.cons_ne_nil _ _
  reads fuel tail key d hf := by
    have hlength : cs.length + ds.length < fuel := by
      simp only [List.length_cons, List.length_append] at hf
      omega
    have hmembers := readMembers_text (k := k) hb hb' hj hms hlength tail
    have htext : b ++ quoted k ++ ':' :: (b' ++ cs ++ ds) ++ tail =
        b ++ quoted k ++ ':' :: (b' ++ cs ++ ds ++ tail) := by simp
    show ((key, d) :: (readMembers fuel (b ++ quoted k ++ ':' :: (b' ++ cs ++ ds) ++ tail)).1,
      (readMembers fuel (b ++ quoted k ++ ':' :: (b' ++ cs ++ ds) ++ tail)).2.1,
      (readMembers fuel (b ++ quoted k ++ ':' :: (b' ++ cs ++ ds) ++ tail)).2.2) = _
    rw [htext, hmembers]; rfl

theorem readsAs_noMembers : ReadsAs ['\x7b', '\x7d'] (draft (.object [])) :=
  fun _ tail _ _ => ⟨tail, rfl, rfl⟩

theorem readMembers_skipBlanks (fuel : Nat) (cs : List Char) :
    readMembers fuel (skipBlanks cs) = readMembers fuel cs := by
  cases fuel with
  | zero => rfl
  | succ fuel => rw [readMembers, readMembers, skipBlanks_skipBlanks]

/-- An object is read member by member. -/
theorem readsAs_members {k : String} {j : Json} {ms : List (String × Json)} {b b' cs ds : List Char}
    (hb : Blank b) (hb' : Blank b') (hj : ReadsAs cs (draft j)) (hms : MembersRead ds ms) :
    ReadsAs ('\x7b' :: (b ++ quoted k ++ ':' :: (b' ++ cs ++ ds))) (draft (.object ((k, j) :: ms))) := by
  intro fuel tail hf _
  refine ⟨tail, ?_, rfl⟩
  have hlength : cs.length + ds.length < fuel := by
    simp only [List.length_cons, List.length_append] at hf
    omega
  have htext : b ++ quoted k ++ ':' :: (b' ++ cs ++ ds) ++ tail =
      b ++ quoted k ++ ':' :: (b' ++ cs ++ ds ++ tail) := by simp
  have hmembers := readMembers_text (k := k) hb hb' hj hms hlength tail
  have hbegins : ∀ rest, skipBlanks (b ++ quoted k ++ ':' :: (b' ++ cs ++ ds ++ tail)) ≠ '\x7d' :: rest := by
    intro rest
    rw [List.append_assoc, skipBlanks_append hb]
    exact fun h => absurd (List.cons.inj h).1 (by decide)
  have hvalue := readValue_brace fuel hbegins
  rw [readMembers_skipBlanks, hmembers, ← htext] at hvalue
  exact hvalue

/-! ## Reading what was printed -/

mutual

/-- **A text of a value is read as the value.** -/
theorem Text.readsAs : ∀ {j : Json} {cs : List Char}, Text j cs → ReadsAs cs (draft j)
  | _, _, .null => readsAs_null
  | _, _, .true => readsAs_true
  | _, _, .false => readsAs_false
  | _, _, .integer h => readsAs_integer h
  | _, _, .real h => readsAs_real h
  | _, _, .string s => readsAs_string s
  | _, _, .noItems => readsAs_noItems
  | _, _, .items hb hj hjs => readsAs_items hb hj.readsAs hjs.itemsRead
  | _, _, .noMembers => readsAs_noMembers
  | _, _, .members hb hb' hj hms => readsAs_members hb hb' hj.readsAs hms.membersRead

theorem ItemsText.itemsRead : ∀ {js : List Json} {ds : List Char}, ItemsText js ds → ItemsRead ds js
  | _, _, .close hb => itemsRead_close hb
  | _, _, .next hb hj hjs => itemsRead_next hb hj.readsAs hjs.itemsRead

theorem MembersText.membersRead :
    ∀ {ms : List (String × Json)} {ds : List Char}, MembersText ms ds → MembersRead ds ms
  | _, _, .close hb => membersRead_close hb
  | _, _, .next hb hb' hj hms => membersRead_next hb hb' hj.readsAs hms.membersRead

end

/-- **A document that is the text of a value is read as the value**, whatever blanks follow. -/
theorem readDraft_of_text {j : Json} {cs b : List Char} (h : Text j cs) (hb : Blank b) :
    readDraft (String.ofList (cs ++ b)) = (draft j, true) := by
  have hlength : cs.length ≤ (cs ++ b).length := by
    rw [List.length_append]
    omega
  have hends : Ends b := by
    have h := Ends.blank_append hb ends_nil
    rwa [List.append_nil] at h
  obtain ⟨rest, hread, hrest⟩ := h.readsAs (cs ++ b).length b hlength hends
  have hblank : skipBlanks b = [] := List.dropWhile_eq_nil_iff.2 hb
  unfold readDraft
  simp only [String.toList_ofList, hread, hrest, hblank]
  rfl

/-! ## What is printed -/

mutual

/-- Whether every number in a value can be read back from its text. -/
def IsPrintable : Json → Prop
  | .integer n => FitsWord n
  | .real x => IsReadBack x
  | .array items => ArePrintable items
  | .object members => HasPrintable members
  | .null | .boolean _ | .string _ => True

def ArePrintable : List Json → Prop
  | [] => True
  | j :: js => IsPrintable j ∧ ArePrintable js

def HasPrintable : List (String × Json) → Prop
  | [] => True
  | (_, j) :: ms => IsPrintable j ∧ HasPrintable ms

end

theorem blank_nil : Blank [] := fun _ h => absurd h List.not_mem_nil

theorem blank_space : Blank [' '] := by
  intro c hc
  rw [List.mem_singleton.1 hc]; rfl

theorem blank_newline (level : Nat) : Blank (newline level) := by
  intro c hc
  rcases List.mem_cons.1 hc with rfl | hc
  · rfl
  · rw [List.eq_of_mem_replicate hc]; rfl

mutual

/-- **The compact text is one of the value.** -/
theorem text_compact : ∀ {j : Json}, IsPrintable j → Text j (compactChars j)
  | .null, _ => .null
  | .boolean true, _ => .true
  | .boolean false, _ => .false
  | .integer _, h => .integer h
  | .real _, h => .real h
  | .string s, _ => .string s
  | .array [], _ => .noItems
  | .array (_ :: _), h => .items blank_nil (text_compact h.1) (itemsText_compact h.2)
  | .object [], _ => .noMembers
  | .object ((k, _) :: _), h => by
    have htext := Text.members (k := k) blank_nil blank_nil (text_compact h.1) (membersText_compact h.2)
    simpa [compactChars] using htext

theorem itemsText_compact : ∀ {js : List Json}, ArePrintable js → ItemsText js (compactItems js)
  | [], _ => .close blank_nil
  | _ :: _, h => .next blank_nil (text_compact h.1) (itemsText_compact h.2)

theorem membersText_compact :
    ∀ {ms : List (String × Json)}, HasPrintable ms → MembersText ms (compactMembers ms)
  | [], _ => .close blank_nil
  | (k, _) :: _, h => by
    have htext := MembersText.next (k := k) blank_nil blank_nil (text_compact h.1) (membersText_compact h.2)
    simpa [compactMembers] using htext

end

mutual

/-- **So is the indented text.** -/
theorem text_pretty : ∀ (level : Nat) {j : Json}, IsPrintable j → Text j (prettyChars level j)
  | _, .null, _ => .null
  | _, .boolean true, _ => .true
  | _, .boolean false, _ => .false
  | _, .integer _, h => .integer h
  | _, .real _, h => .real h
  | _, .string s, _ => .string s
  | _, .array [], _ => .noItems
  | level, .array (_ :: _), h => by
    have htext := Text.items (blank_newline (level + 1)) (text_pretty (level + 1) h.1) (itemsText_pretty level h.2)
    simpa [prettyChars] using htext
  | _, .object [], _ => .noMembers
  | level, .object ((k, _) :: _), h => by
    have htext := Text.members (k := k) (blank_newline (level + 1)) blank_space (text_pretty (level + 1) h.1)
      (membersText_pretty level h.2)
    simpa [prettyChars] using htext

theorem itemsText_pretty :
    ∀ (level : Nat) {js : List Json}, ArePrintable js → ItemsText js (prettyItems level js)
  | level, [], _ => .close (blank_newline level)
  | level, _ :: _, h => by
    have htext := ItemsText.next (blank_newline (level + 1)) (text_pretty (level + 1) h.1)
      (itemsText_pretty level h.2)
    simpa [prettyItems] using htext

theorem membersText_pretty :
    ∀ (level : Nat) {ms : List (String × Json)}, HasPrintable ms → MembersText ms (prettyMembers level ms)
  | level, [], _ => .close (blank_newline level)
  | level, (k, _) :: _, h => by
    have htext := MembersText.next (k := k) (blank_newline (level + 1)) blank_space (text_pretty (level + 1) h.1)
      (membersText_pretty level h.2)
    simpa [prettyMembers] using htext

end

variable {j : Json}

/-- **A printed value is read back**, also with a line break after it. -/
theorem readDraft_compact (h : IsPrintable j) : readDraft (compact j) = (draft j, true) := by
  have hread := readDraft_of_text (text_compact h) blank_nil
  rwa [List.append_nil] at hread

/-- So is a value that was printed with indents. -/
theorem readDraft_pretty (h : IsPrintable j) : readDraft (pretty j) = (draft j, true) := by
  have hread := readDraft_of_text (text_pretty 0 h) blank_nil
  rwa [List.append_nil] at hread

end GuestDisks.Json
