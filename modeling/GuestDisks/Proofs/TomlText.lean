import GuestDisks.Proofs.TomlBlocks

/-!
# TOML documents, printed and read

The text of a table in sections is that of its statements, block by block and with an empty line between
blocks (`write_eq`). Each line is scanned as the statement it was written for (`scanStatement_chars`) and
empty lines are passed over (`ScansAs.blocks`), so the text is read as the table again (`readDocument_write`).
-/

namespace GuestDisks.Toml

/-! ## The lines of statements -/

/-- The line of a statement. -/
def Statement.chars : Statement → List Char
  | .entry path key v => pathChars (path ++ [key]) ++ ' ' :: '=' :: ' ' :: (valueChars v ++ ['\n'])
  | .header path key => '[' :: (pathChars (path ++ [key]) ++ [']', '\n'])
  | .element path key => '[' :: '[' :: (pathChars (path ++ [key]) ++ [']', ']', '\n'])

/-- The lines of statements. -/
def linesOf (ss : List Statement) : List Char := ss.flatMap (·.chars)

theorem pathChars_singleton (key : String) : pathChars ([] ++ [key]) = keyChars key := by simp [pathChars]

/-- The lines of a table are those of its statements. -/
theorem lines_eq (t : Table) : lines t = linesOf (lineStatements t) := by
  unfold lines linesOf lineStatements
  rw [List.flatMap_map]
  congr 1
  funext e
  show _ = pathChars ([] ++ [e.1]) ++ _
  rw [pathChars_singleton]
  simp

/-- The block of a table is its header and its lines. -/
theorem tableBlock_eq (path : List String) (key : String) (t : Table) :
    tableBlock (path ++ [key]) t = linesOf (.header path key :: lineStatements t) := by
  unfold tableBlock linesOf
  rw [lines_eq, List.flatMap_cons]
  simp [Statement.chars, linesOf]

/-- The block of an element is its header and its lines. -/
theorem elementBlock_eq (path : List String) (key : String) (t : Table) :
    elementBlock (path ++ [key]) t = linesOf (.element path key :: lineStatements t) := by
  unfold elementBlock linesOf
  rw [lines_eq, List.flatMap_cons]
  simp [Statement.chars, linesOf]

mutual

/-- **The blocks of a value are those of its statements.** -/
theorem blocks_eq (path : List String) (key : String) : ∀ v : Value,
    blocks (path ++ [key]) v = (blockStatements path key v).map linesOf
  | .table entries => by
    rw [blocks, blockStatements, List.map_append, entryBlocks_eq]
    split
    · rw [tableBlock_eq]
      rfl
    · rfl
  | .array items => by
    rw [blocks, blockStatements]
    split
    · exact itemBlocks_eq path key items
    · rfl
  | .string _ | .integer _ | .float _ | .boolean _ | .datetime _ => by
    rw [blocks, blockStatements] <;> first | rfl | exact nofun

theorem entryBlocks_eq (path : List String) : ∀ es : List (String × Value),
    entryBlocks path es = (entryStatements path es).map linesOf
  | [] => by rw [entryBlocks, entryStatements]; rfl
  | (k, v) :: es => by
    rw [entryBlocks, entryStatements, List.map_append, blocks_eq path k v, entryBlocks_eq path es]

theorem itemBlocks_eq (path : List String) (key : String) : ∀ items : List Value,
    itemBlocks (path ++ [key]) items = (itemStatements path key items).map linesOf
  | [] => by rw [itemBlocks, itemStatements]; rfl
  | .table entries :: vs => by
    rw [itemBlocks, itemStatements, List.map_append, List.map_cons, elementBlock_eq, entryBlocks_eq,
      itemBlocks_eq path key vs]
  | .string _ :: vs | .integer _ :: vs | .float _ :: vs | .boolean _ :: vs | .datetime _ :: vs
  | .array _ :: vs => by
    rw [itemBlocks, itemStatements, itemBlocks_eq path key vs] <;> exact nofun

end

/-- A name begins with a bare character or a quote. -/
theorem exists_pathChars (path : List String) (key : String) : ∃ c cs, pathChars (path ++ [key]) = c :: cs ∧
    (isBareKeyChar c = true ∨ c = '\x22') := by
  cases path with
  | nil =>
    obtain ⟨c, cs, hkey, hc⟩ := exists_keyChars key
    exact ⟨c, cs, by rw [pathChars_singleton, hkey], hc⟩
  | cons k path =>
    obtain ⟨c, cs, hkey, hc⟩ := exists_keyChars k
    refine ⟨c, cs ++ '.' :: pathChars (path ++ [key]), ?_, hc⟩
    rw [List.cons_append, pathChars_cons, hkey, List.cons_append]

/-- No name begins with a bracket. -/
theorem pathChars_append_ne (path : List String) (key : String) (rest cs : List Char) :
    pathChars (path ++ [key]) ++ rest ≠ '[' :: cs := by
  obtain ⟨c, cs', hchars, hc⟩ := exists_pathChars path key
  rw [hchars]
  intro heq
  obtain rfl : c = '[' := (List.cons.inj heq).1
  rcases hc with h | h
  · exact absurd h (by decide)
  · exact absurd h (by decide)

/-- A line is not empty, and begins with a name or a bracket. -/
theorem exists_chars (s : Statement) : ∃ c cs, s.chars = c :: cs ∧
    (isBareKeyChar c = true ∨ c = '\x22' ∨ c = '[') := by
  cases s with
  | entry path key v =>
    obtain ⟨c, cs, hname, hc⟩ := exists_pathChars path key
    refine ⟨c, cs ++ ' ' :: '=' :: ' ' :: (valueChars v ++ ['\n']), ?_, hc.imp_right .inl⟩
    rw [Statement.chars, hname, List.cons_append]
  | header path key => exact ⟨_, _, rfl, .inr (.inr rfl)⟩
  | element path key => exact ⟨_, _, rfl, .inr (.inr rfl)⟩

theorem isEmpty_lines (t : Table) : (lines t).isEmpty = (ownValues t).isEmpty := by
  have hlines : lineStatements t = (ownValues t).map fun e => .entry [] e.1 e.2 := rfl
  rw [lines_eq, hlines]
  cases ownValues t with
  | nil => rfl
  | cons e own =>
    obtain ⟨c, cs, hchars, -⟩ := exists_chars (.entry [] e.1 e.2)
    rw [List.map_cons]
    show ((Statement.entry [] e.1 e.2).chars ++ _).isEmpty = false
    rw [hchars]
    rfl

/-- **The text of a table is that of its statements**, block by block. -/
theorem write_eq (t : Table) :
    write t = String.ofList (['\n'].intercalate ((documentStatements t).map linesOf)) := by
  unfold write documentStatements
  simp only [isEmpty_lines, entryBlocks_eq, List.map_append]
  congr 3
  split
  · rfl
  · rw [lines_eq]
    rfl

/-! ## Lines, scanned -/

/-- A statement whose line is scanned back: a value stands under a single key. -/
def Statement.IsScanned : Statement → Prop
  | .entry path _ v => path = [] ∧ v.IsPlain
  | .header _ _ | .element _ _ => True

theorem endLine_newline (cs : List Char) : endLine ('\n' :: cs) = some cs := rfl

theorem length_pathChars (path : List String) (key : String) :
    path.length ≤ (pathChars (path ++ [key])).length := by
  induction path with
  | nil => exact Nat.zero_le _
  | cons k path ih =>
    rw [List.cons_append, pathChars_cons, List.length_append, List.length_cons, List.length_cons]
    omega

/-- The name in a header is scanned up to the bracket. -/
theorem scanKey_header (path : List String) (key : String) (tail : List Char) :
    scanKey ((pathChars (path ++ [key]) ++ ']' :: tail).length + 1) (pathChars (path ++ [key]) ++ ']' :: tail) =
      some (path, key, ']' :: tail) := by
  have hlength := length_pathChars path key
  rw [scanKey_path path key]
  · rfl
  · rw [List.length_append]
    omega
  · exact .cons (by decide) _
  · exact nofun

/-- **A line is scanned as its statement.** -/
theorem scanStatement_chars {s : Statement} (h : s.IsScanned) (tail : List Char) :
    scanStatement (s.chars ++ tail) = some (s, tail) := by
  cases s with
  | entry path key v =>
    obtain ⟨rfl, hv⟩ := h
    have htext : (Statement.entry [] key v).chars ++ tail =
        pathChars ([] ++ [key]) ++ ' ' :: '=' :: ' ' :: (valueChars v ++ '\n' :: tail) := by
      simp [Statement.chars]
    have hscan : ∀ fuel, scanKey (fuel + 1)
        (pathChars ([] ++ [key]) ++ ' ' :: '=' :: ' ' :: (valueChars v ++ '\n' :: tail)) =
          some ([], key, '=' :: ' ' :: (valueChars v ++ '\n' :: tail)) := by
      intro fuel
      refine scanKey_path [] key (fuel + 1) (Nat.succ_pos _) (.cons (by decide) _) ?_
      exact nofun
    rw [htext]
    unfold scanStatement
    -- a bracket would make a header of the line, but no name begins with one
    split
    · exact absurd ‹_› (pathChars_append_ne [] key _ _)
    · exact absurd ‹_› (pathChars_append_ne [] key _ _)
    · simp only [hscan, Option.bind_eq_bind, Option.bind_some, expect, if_true, scanValue_plain hv,
        endLine_newline]
      rfl
  | header path key =>
    have htext : (Statement.header path key).chars ++ tail =
        '[' :: (pathChars (path ++ [key]) ++ ']' :: '\n' :: tail) := by
      simp [Statement.chars]
    have hscan := scanKey_header path key ('\n' :: tail)
    rw [htext]
    unfold scanStatement
    split
    · rename_i heq
      -- nor does a name begin with the second bracket of an element's header
      exact absurd (List.cons.inj heq).2 (pathChars_append_ne path key _ _)
    · rename_i heq
      rw [← (List.cons.inj heq).2, hscan]
      rfl
    · rename_i hne
      exact absurd rfl (hne _)
  | element path key =>
    have htext : (Statement.element path key).chars ++ tail =
        '[' :: '[' :: (pathChars (path ++ [key]) ++ ']' :: ']' :: '\n' :: tail) := by
      simp [Statement.chars]
    have hscan := scanKey_header path key (']' :: '\n' :: tail)
    rw [htext, scanStatement, hscan]
    rfl

/-- A line begins with no byte order mark, and its first character ends no line before it. -/
theorem exists_chars_start (s : Statement) (tail : List Char) : ∃ c cs, s.chars ++ tail = c :: cs ∧
    isBlank c = false ∧ c ≠ '#' ∧ c ≠ '\n' ∧ c ≠ '\r' ∧ c ≠ '\ufeff' := by
  obtain ⟨c, cs, hchars, hc⟩ := exists_chars s
  have hstart : ∀ c', (isBareKeyChar c' = true ∨ c' = '\x22' ∨ c' = '[') → isBlank c' = false ∧
      c' ≠ '#' ∧ c' ≠ '\n' ∧ c' ≠ '\r' ∧ c' ≠ '\ufeff' := by
    rintro c' (hbare | rfl | rfl)
    · have hother : ∀ d, isBareKeyChar d = false → c' ≠ d := by
        rintro d hd rfl
        rw [hd] at hbare
        cases hbare
      refine ⟨?_, hother _ rfl, hother _ rfl, hother _ rfl, hother _ rfl⟩
      have hspace : c' ≠ ' ' := hother _ rfl
      have htab : c' ≠ '\t' := hother _ rfl
      simp [isBlank, hspace, htab]
    · decide
    · decide
  exact ⟨c, cs ++ tail, by rw [hchars, List.cons_append], hstart c hc⟩

/-! ## Texts, scanned -/

/-- A text is scanned as statements, by any fuel that reaches its end. -/
def ScansAs (cs : List Char) (ss : List Statement) : Prop :=
  ∀ fuel, cs.length < fuel → scanStatements fuel cs = some ss

/-- Each statement of some blocks is scanned back from its line. -/
def AreScanned (bs : List (List Statement)) : Prop := ∀ b ∈ bs, ∀ s ∈ b, s.IsScanned

namespace ScansAs

variable {s : Statement} {ss block : List Statement} {cs : List Char}

theorem nil : ScansAs [] [] := by
  intro fuel hfuel
  obtain ⟨fuel, rfl⟩ := Nat.exists_eq_add_one_of_ne_zero (Nat.ne_of_gt hfuel)
  rfl

/-- An empty line is passed over. -/
theorem newline (h : ScansAs cs ss) : ScansAs ('\n' :: cs) ss := by
  intro fuel hfuel
  rw [List.length_cons] at hfuel
  obtain ⟨fuel, rfl⟩ := Nat.exists_eq_add_one_of_ne_zero (Nat.ne_of_gt (Nat.zero_lt_of_lt hfuel))
  exact h fuel (by omega)

/-- A line is scanned as its statement. -/
theorem line (hs : s.IsScanned) (h : ScansAs cs ss) : ScansAs (s.chars ++ cs) (s :: ss) := by
  intro fuel hfuel
  have hscan := scanStatement_chars hs cs
  obtain ⟨c, cs', htext, hblank, hcomment, hnewline, hreturn, -⟩ := exists_chars_start s cs
  have hlength : cs.length < (s.chars ++ cs).length := by
    obtain ⟨d, ds, hchars, -⟩ := exists_chars s
    rw [List.length_append, hchars, List.length_cons]
    omega
  obtain ⟨fuel, rfl⟩ := Nat.exists_eq_add_one_of_ne_zero (Nat.ne_of_gt (Nat.zero_lt_of_lt hfuel))
  have hrest : scanStatements fuel cs = some ss := h fuel (by omega)
  -- the line is neither blank nor a comment, so the scanner comes to the statement in it
  rw [htext] at hscan ⊢
  have hskip : skipBlanks (c :: cs') = c :: cs' := List.dropWhile_cons_of_neg (by rw [hblank]; decide)
  have hend : endLine (c :: cs') = none := by
    unfold endLine
    rw [hskip]
    simp [skipComment, afterNewline?, hcomment, hnewline, hreturn]
  rw [scanStatements, hskip]
  simp only [hend, hscan]
  show (scanStatements fuel cs).bind _ = _
  rw [hrest]
  rfl

/-- Lines are scanned as their statements. -/
theorem lines (hblock : ∀ s ∈ block, s.IsScanned) (h : ScansAs cs ss) :
    ScansAs (linesOf block ++ cs) (block ++ ss) := by
  induction block with
  | nil => exact h
  | cons s block ih =>
    obtain ⟨hs, hblock⟩ := List.forall_mem_cons.1 hblock
    unfold linesOf
    rw [List.flatMap_cons, List.append_assoc]
    exact line hs (ih hblock)

/-- **Blocks are scanned one after another**, past the empty lines between them. -/
theorem blocks {bs : List (List Statement)} (h : AreScanned bs) :
    ScansAs (['\n'].intercalate (bs.map linesOf)) bs.flatten := by
  induction bs with
  | nil => exact nil
  | cons b bs ih =>
    obtain ⟨hb, hbs⟩ := List.forall_mem_cons.1 h
    -- an empty line stands after every block but the last
    cases bs with
    | nil =>
      have hlines := lines hb nil
      rw [List.append_nil] at hlines
      simpa using hlines
    | cons b' bs =>
      have hlines := lines hb (newline (ih hbs))
      simpa [List.intercalate] using hlines

end ScansAs

/-! ## The statements of sections -/

theorem AreScanned.append {bs cs : List (List Statement)} (h : AreScanned bs) (h' : AreScanned cs) :
    AreScanned (bs ++ cs) := List.forall_mem_append.2 ⟨h, h'⟩

/-- The lines of a section are scanned back. -/
theorem isScanned_lineStatements {own inner : Table} (hown : ∀ e ∈ own, e.2.IsPlain)
    (hinner : ∀ e ∈ inner, IsSection e.2) : ∀ s ∈ lineStatements (own ++ inner), s.IsScanned := by
  intro s hs
  have hlines : lineStatements (own ++ inner) = own.map fun e => .entry [] e.1 e.2 :=
    congrArg (List.map _) (ownValues_append hown hinner)
  rw [hlines] at hs
  obtain ⟨e, he, rfl⟩ := List.mem_map.1 hs
  exact ⟨rfl, hown e he⟩

/-- The blocks of a section are scanned back if those of its values are. -/
theorem areScanned_entries {own inner : Table} (hown : ∀ e ∈ own, e.2.IsPlain)
    (h : ∀ e ∈ inner, ∀ path key, AreScanned (blockStatements path key e.2)) (path : List String) :
    AreScanned (entryStatements path (own ++ inner)) := by
  rw [entryStatements_append, entryStatements_own hown, List.nil_append]
  induction inner with
  | nil =>
    rw [entryStatements]
    exact nofun
  | cons e inner ih =>
    obtain ⟨he, hinner⟩ := List.forall_mem_cons.1 h
    rw [entryStatements]
    exact (he path e.1).append (ih hinner)

theorem areScanned_items {ts : List Table} (path : List String) (key : String)
    (hlines : ∀ t ∈ ts, ∀ s ∈ lineStatements t, s.IsScanned)
    (hentries : ∀ t ∈ ts, ∀ path, AreScanned (entryStatements path t)) :
    AreScanned (itemStatements path key (ts.map .table)) := by
  induction ts with
  | nil =>
    rw [List.map_nil, itemStatements]
    exact nofun
  | cons t ts ih =>
    obtain ⟨ht, hlines⟩ := List.forall_mem_cons.1 hlines
    obtain ⟨ht', hentries⟩ := List.forall_mem_cons.1 hentries
    have hblock : AreScanned [.element path key :: lineStatements t] :=
      List.forall_mem_singleton.2 (List.forall_mem_cons.2 ⟨trivial, ht⟩)
    rw [List.map_cons, itemStatements]
    exact (hblock.append (ht' _)).append (ih hlines hentries)

/-- **All that is written about a value in sections is scanned back**, and so is what is written in a table
among them, its own lines apart. -/
theorem areScanned_of_isSection {v : Value} (h : IsSection v) :
    (∀ path key, AreScanned (blockStatements path key v)) ∧
      ∀ t, v = .table t → (∀ s ∈ lineStatements t, s.IsScanned) ∧ ∀ path, AreScanned (entryStatements path t) := by
  induction h with
  | @table own inner hown hinner hkeys ih =>
    have hlines := isScanned_lineStatements hown hinner
    have hentries := areScanned_entries hown fun e he => (ih e he).1
    refine ⟨fun path key => ?_, ?_⟩
    · rw [blockStatements]
      refine AreScanned.append ?_ (hentries _)
      split
      · exact List.forall_mem_singleton.2 (List.forall_mem_cons.2 ⟨trivial, hlines⟩)
      · exact nofun
    · rintro t ⟨⟩
      exact ⟨hlines, hentries⟩
  | @array t ts h ih =>
    refine ⟨fun path key => ?_, nofun⟩
    rw [blockStatements, if_pos (hasHeader_items t ts)]
    exact areScanned_items path key (fun u hu => ((ih u hu).2 u rfl).1) fun u hu => ((ih u hu).2 u rfl).2

/-- Each statement of a written document is scanned back. -/
theorem areScanned_documentStatements {t : Table} (h : IsSection (.table t)) :
    AreScanned (documentStatements t) := by
  obtain ⟨hlines, hentries⟩ := (areScanned_of_isSection h).2 t rfl
  refine AreScanned.append ?_ (hentries [])
  split
  · exact nofun
  · exact List.forall_mem_singleton.2 hlines

/-! ## Whole documents -/

/-- What is scanned begins with no byte order mark. -/
theorem statements_of_scansAs {s : String} {ss : List Statement} (h : ScansAs s.toList ss)
    (hmark : ∀ cs, s.toList ≠ '\ufeff' :: cs) : statements s = some ss := by
  unfold statements
  split
  · exact absurd ‹_› (hmark _)
  · exact h _ (Nat.lt_succ_self _)

theorem intercalate_blocks_ne (bs : List (List Statement)) (cs : List Char) :
    ['\n'].intercalate (bs.map linesOf) ≠ '\ufeff' :: cs := by
  induction bs generalizing cs with
  | nil => exact nofun
  | cons b bs ih =>
    have hline : ∀ (s : Statement) (tail : List Char), s.chars ++ tail ≠ '\ufeff' :: cs := by
      intro s tail heq
      obtain ⟨c, cs', htext, -, -, -, -, hmark⟩ := exists_chars_start s tail
      rw [htext] at heq
      exact hmark (List.cons.inj heq).1
    -- a block without lines would show what is after it, and that is an empty line
    cases b with
    | nil =>
      cases bs with
      | nil => simp [linesOf]
      | cons b' bs => simp [List.intercalate, linesOf]
    | cons s b =>
      cases bs with
      | nil => simpa [linesOf] using hline s (linesOf b)
      | cons b' bs => simpa [List.intercalate, linesOf] using hline s _

/-- **A table in sections is read from its text again.** -/
theorem readDocument_write {t : Table} (h : IsSection (.table t)) : readDocument (write t) = some t := by
  have hscan : statements (write t) = some (documentStatements t).flatten := by
    rw [write_eq]
    refine statements_of_scansAs ?_ ?_
    · rw [String.toList_ofList]
      exact .blocks (areScanned_documentStatements h)
    · rw [String.toList_ofList]
      exact intercalate_blocks_ne _
  have hresult := carryOut_documentStatements h
  unfold carryOut at hresult
  unfold readDocument
  rw [hscan, Option.bind_eq_bind, Option.bind_some]
  cases hstate : (documentStatements t).flatten.foldlM (fun state s => s.apply state) ([], []) with
  | none => rw [hstate] at hresult; cases hresult
  | some state => rw [hstate] at hresult; exact hresult

end GuestDisks.Toml
