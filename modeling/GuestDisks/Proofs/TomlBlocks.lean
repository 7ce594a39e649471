import GuestDisks.Proofs.Maps
import GuestDisks.Proofs.TomlTokens

/-!
# The blocks of a TOML document, carried out

A table is written in blocks: its own values under its header, and then the blocks of the tables and arrays
inside it (`IsSection`). Carried out, each statement changes one table, which a path leads to (`Makes`), and
changes of a table are changes of the table around it (`Makes.inside`).

What is written about a value adds it to the table in which it stands (`addsValue_of_isSection`), whether
that value has begun by a header of its own or is implied by the names of those inside it. So the statements
about a whole table, carried out from nothing, give the table again (`carryOut_documentStatements`).
-/

namespace GuestDisks.Toml

open Data

/-! ## Values in sections -/

/-- A value that is written under headers: a table with plain values first and others under headers of their
own after them, or a non-empty array of such tables. -/
inductive IsSection : Value → Prop
  | table {own inner : Table} (hown : ∀ e ∈ own, e.2.IsPlain) (hinner : ∀ e ∈ inner, IsSection e.2)
    (hkeys : ((own ++ inner).map (·.1)).Nodup) : IsSection (.table (own ++ inner))
  | array {t : Table} {ts : List Table} (h : ∀ u ∈ t :: ts, IsSection (.table u)) :
    IsSection (.array ((t :: ts).map .table))

/-- A plain value has no header. -/
theorem Value.IsPlain.hasHeader {v : Value} (h : v.IsPlain) : hasHeader v = false := by
  cases v with
  | string s => rfl
  | integer n => rfl
  | float x => rfl
  | boolean b => rfl
  | datetime d => exact h.elim
  | array items => exact h.elim
  | table entries => exact h.elim

theorem hasHeader_items (t : Table) (ts : List Table) : hasHeader (.array ((t :: ts).map .table)) = true := by
  show ((t :: ts).map Value.table).all Value.isTable = true
  rw [List.all_map, List.all_eq_true]
  exact fun _ _ => rfl

/-- A section has one. -/
theorem IsSection.hasHeader {v : Value} (h : IsSection v) : hasHeader v = true := by
  cases h with
  | table => rfl
  | array => exact hasHeader_items _ _

/-! ## The statements of a table -/

/-- The statements of a table's own values. -/
def lineStatements (entries : Table) : List Statement :=
  (entries.filter fun e => !hasHeader e.2).map fun e => .entry [] e.1 e.2

mutual

/-- The statements of a value that gets headers, under a key in the table at a path, block by block. -/
def blockStatements (path : List String) (key : String) : Value → List (List Statement)
  | .table entries =>
    (if showsHeader entries then [.header path key :: lineStatements entries] else []) ++
      entryStatements (path ++ [key]) entries
  | .array items => if hasHeader (.array items) then itemStatements path key items else []
  | _ => []

def entryStatements (path : List String) : List (String × Value) → List (List Statement)
  | [] => []
  | (k, v) :: es => blockStatements path k v ++ entryStatements path es

def itemStatements (path : List String) (key : String) : List Value → List (List Statement)
  | [] => []
  | .table entries :: vs =>
    (.element path key :: lineStatements entries) :: entryStatements (path ++ [key]) entries ++
      itemStatements path key vs
  | _ :: vs => itemStatements path key vs

end

/-- Carries out statements one after another: the path of the current block and the whole tree. -/
def carryOut (ss : List Statement) (state : List String × Entries) : Option (List String × Entries) :=
  ss.foldlM (fun state s => s.apply state) state

theorem carryOut_append (ss ts : List Statement) (state : List String × Entries) :
    carryOut (ss ++ ts) state = (carryOut ss state).bind (carryOut ts) := List.foldlM_append

theorem carryOut_cons (s : Statement) (ss : List Statement) (state : List String × Entries) :
    carryOut (s :: ss) state = (s.apply state).bind (carryOut ss) := List.foldlM_cons

/-! ## Changes of tables -/

/-- Changes made one after another. -/
def inOrder (fs : List (Entries → Option Entries)) (es : Entries) : Option Entries :=
  fs.foldlM (fun es f => f es) es

theorem inOrder_append (fs gs : List (Entries → Option Entries)) (es : Entries) :
    inOrder (fs ++ gs) es = (inOrder fs es).bind (inOrder gs) := List.foldlM_append

theorem inOrder_cons (f : Entries → Option Entries) (fs : List (Entries → Option Entries)) (es : Entries) :
    inOrder (f :: fs) es = (f es).bind (inOrder fs) := List.foldlM_cons

/-- A change at a path is made step by step along it. -/
theorem changeAt_append (f : Entries → Option Entries) (path path' : List String) :
    changeAt f (path ++ path') = changeAt (changeAt f path') path := by
  induction path with
  | nil => rfl
  | cons k path ih =>
    funext es
    rw [List.cons_append, changeAt, changeAt, ih]

/-- Statements make changes in the table at a path, whatever the current block is before them. -/
def Makes (path : List String) (ss : List Statement) (fs : List (Entries → Option Entries)) : Prop :=
  ∀ block root, (carryOut ss (block, root)).map (·.2) = inOrder (fs.map (changeAt · path)) root

namespace Makes

variable {path : List String} {key : String} {ss ts : List Statement} {fs gs : List (Entries → Option Entries)}

theorem nil (path : List String) : Makes path [] [] := fun _ _ => rfl

theorem append (h : Makes path ss fs) (h' : Makes path ts gs) : Makes path (ss ++ ts) (fs ++ gs) := by
  intro block root
  have hs := h block root
  -- `ts` begins in whatever block `ss` has left, which is why `Makes` is about every block
  rw [carryOut_append, List.map_append, inOrder_append, ← hs]
  cases carryOut ss (block, root) with
  | none => rfl
  | some state => exact h' state.1 state.2

/-- Changes in a table are changes in the table around it. -/
theorem inside (h : Makes (path ++ [key]) ss fs) : Makes path ss (fs.map (changeAt · [key])) := by
  intro block root
  rw [h block root, List.map_map]
  congr 2
  funext f
  exact changeAt_append f path [key]

end Makes

/-- The changes that a table's own values make to it. -/
def additions (own : Table) : List (Entries → Option Entries) := own.map fun e => addEntry [] e.1 e.2

/-- The statements of a table's own values change the table of the current block, which stays the same. -/
theorem carryOut_lines (own : Table) (block : List String) (root : Entries) :
    carryOut (own.map fun e => .entry [] e.1 e.2) (block, root) =
      (inOrder ((additions own).map (changeAt · block)) root).map (block, ·) := by
  -- on the lines; the root changes with each, the block with none
  induction own generalizing root with
  | nil => rfl
  | cons e own ih =>
    have happly : (Statement.entry [] e.1 e.2).apply (block, root) =
        (changeAt (addEntry [] e.1 e.2) block root).map (block, ·) := by
      show (do
        let root ← changeAt (addEntry [] e.1 e.2) block root
        return (block, root)) = _
      cases changeAt (addEntry [] e.1 e.2) block root <;> rfl
    unfold additions at ih ⊢
    rw [List.map_cons, carryOut_cons, happly, List.map_cons, List.map_cons, inOrder_cons]
    cases changeAt (addEntry [] e.1 e.2) block root with
    | none => rfl
    | some root' => exact ih root'

variable {path : List String} {key : String}

/-- A statement that begins a table and the lines below it: the table begins, and its values are added. -/
theorem makes_block {s : Statement} {begins : Entries → Option Entries}
    (hs : ∀ block root, s.apply (block, root) = (changeAt begins path root).map (path ++ [key], ·))
    (own : Table) : Makes path (s :: own.map fun e => .entry [] e.1 e.2)
      (begins :: (additions own).map (changeAt · [key])) := by
  intro block root
  have hinside : ((additions own).map (changeAt · [key])).map (changeAt · path) =
      (additions own).map (changeAt · (path ++ [key])) := by
    rw [List.map_map]
    congr 1
    funext f
    exact (changeAt_append f path [key]).symm
  rw [carryOut_cons, hs, List.map_cons, inOrder_cons, hinside]
  cases changeAt begins path root with
  | none => rfl
  | some root' =>
    rw [Option.map_some, Option.bind_some, Option.bind_some, carryOut_lines, Option.map_map]
    exact Option.map_id'

/-- A block under a header begins a table and adds its own values there. -/
theorem makes_header (path : List String) (key : String) (own : Table) :
    Makes path (.header path key :: own.map fun e => .entry [] e.1 e.2)
      (beginTable key :: (additions own).map (changeAt · [key])) := by
  refine makes_block (fun block root => ?_) own
  show (do
    let root ← changeAt (beginTable key) path root
    return (path ++ [key], root)) = _
  cases changeAt (beginTable key) path root <;> rfl

/-- A block under an array header begins an element and adds its own values there. -/
theorem makes_element (path : List String) (key : String) (own : Table) :
    Makes path (.element path key :: own.map fun e => .entry [] e.1 e.2)
      (beginElement key :: (additions own).map (changeAt · [key])) := by
  refine makes_block (fun block root => ?_) own
  show (do
    let root ← changeAt (beginElement key) path root
    return (path ++ [key], root)) = _
  cases changeAt (beginElement key) path root <;> rfl

/-! ## What changes come to -/

/-- Changes that add entries at the end of a table which has none with their keys. -/
def Adds (fs : List (Entries → Option Entries)) (nodes : Entries) : Prop :=
  ∀ es : Entries, (∀ n ∈ nodes, es.lookup n.1 = none) → inOrder fs es = some (es ++ nodes)

namespace Adds

variable {fs gs : List (Entries → Option Entries)} {ns ms : Entries}

theorem nil : Adds [] [] := fun es _ => by rw [List.append_nil]; rfl

theorem append (h : Adds fs ns) (h' : Adds gs ms) (hn : ((ns ++ ms).map (·.1)).Nodup) :
    Adds (fs ++ gs) (ns ++ ms) := by
  intro es hfresh
  obtain ⟨hns, hms⟩ := List.forall_mem_append.1 hfresh
  rw [List.map_append, List.nodup_append] at hn
  rw [inOrder_append, h es hns, Option.bind_some, h', List.append_assoc]
  -- the keys of `ms` are new to `es ++ ns` too, since none is a key of `ns`
  intro m hm
  have hnone : ns.lookup m.1 = none := lookup_eq_none_of_not_mem fun hmem =>
    hn.2.2 _ hmem _ (List.mem_map_of_mem hm) rfl
  rw [List.lookup_append, hms m hm, hnone]
  rfl

theorem ne_nil (h : Adds fs ns) (hne : ns ≠ []) : fs ≠ [] := by
  rintro rfl
  have hempty := h [] fun _ _ => rfl
  exact hne (Option.some.inj hempty).symm

end Adds

/-- The values of a table as a part of the tree. -/
def valueNodes (own : Table) : Entries := own.map fun e => (e.1, .value e.2)

theorem keys_valueNodes (own : Table) : (valueNodes own).map (·.1) = own.map (·.1) := by
  unfold valueNodes
  rw [List.map_map]
  rfl

/-- A table's own values are added one by one, as no key comes twice. -/
theorem adds_additions {own : Table} (hn : (own.map (·.1)).Nodup) : Adds (additions own) (valueNodes own) := by
  induction own with
  | nil => exact .nil
  | cons e own ih =>
    have hfirst : Adds [addEntry [] e.1 e.2] [(e.1, .value e.2)] := by
      intro es hfresh
      have hnone : es.lookup e.1 = none := hfresh _ List.mem_cons_self
      rw [inOrder_cons, addEntry, hnone]
      rfl
    have hkeys : ((valueNodes (e :: own)).map (·.1)).Nodup := by rwa [keys_valueNodes]
    exact hfirst.append (ih (List.nodup_cons.1 hn).2) hkeys

theorem toEntries_append (ns ms : Entries) :
    Node.toEntries (ns ++ ms) = Node.toEntries ns ++ Node.toEntries ms := by
  induction ns with
  | nil => rfl
  | cons n ns ih => exact congrArg ((n.1, n.2.toValue) :: ·) ih

/-- A table is what its values make. -/
theorem toEntries_valueNodes (own : Table) : Node.toEntries (valueNodes own) = own := by
  induction own with
  | nil => rfl
  | cons e own ih => exact congrArg (e :: ·) ih

theorem keys_toEntries (ns : Entries) : (Node.toEntries ns).map (·.1) = ns.map (·.1) := by
  induction ns with
  | nil => rfl
  | cons n ns ih => exact congrArg (n.1 :: ·) ih

section Last

variable {es : Entries} {fs : List (Entries → Option Entries)}

theorem lookup_last (hk : es.lookup key = none) (n : Node) : (es ++ [(key, n)]).lookup key = some n := by
  rw [List.lookup_append, hk]
  simp

theorem replaceEntry_last (hk : es.lookup key = none) (n n' : Node) :
    replaceEntry key n' (es ++ [(key, n)]) = es ++ [(key, n')] := by
  unfold replaceEntry
  rw [List.map_append]
  congr 1
  · have hsame : es.map (fun e => if e.1 = key then (key, n') else e) = es.map id :=
      List.map_congr_left fun e he => if_neg (ne_of_lookup_eq_none hk he)
    rw [hsame, List.map_id]
  · simp

/-- Changes inside the table that was begun last. -/
theorem inOrder_table (hk : es.lookup key = none) (origin : Origin) (inner : Entries) :
    inOrder (fs.map (changeAt · [key])) (es ++ [(key, .table origin inner)]) =
      (inOrder fs inner).map fun inner => es ++ [(key, .table origin inner)] := by
  -- on the changes; each leaves a table under the key, so the next finds it there
  induction fs generalizing inner with
  | nil => rfl
  | cons f fs ih =>
    rw [List.map_cons, inOrder_cons, inOrder_cons, changeAt, lookup_last hk]
    show ((f inner).bind _).bind _ = _
    cases f inner with
    | none => rfl
    | some inner' =>
      show inOrder _ (replaceEntry key _ _) = _
      rw [replaceEntry_last hk]
      exact ih inner'

/-- Changes inside a table that has not begun, by which it is implied. -/
theorem inOrder_implied (hk : es.lookup key = none) (hne : fs ≠ []) :
    inOrder (fs.map (changeAt · [key])) es =
      (inOrder fs []).map fun inner => es ++ [(key, .table .implied inner)] := by
  cases fs with
  | nil => exact absurd rfl hne
  | cons f fs =>
    rw [List.map_cons, inOrder_cons, inOrder_cons, changeAt, hk]
    show ((f []).bind _).bind _ = _
    cases f [] with
    | none => rfl
    | some inner =>
      -- the first change has begun the table, and the others are made in it
      exact inOrder_table hk .implied inner

theorem changeLast_append (f : Entries → Option Entries) (ts : List Entries) (t : Entries) :
    changeLast f (ts ++ [t]) = (f t).map fun t => ts ++ [t] := by
  induction ts with
  | nil => rfl
  | cons u ts ih =>
    have hcons : changeLast f (u :: (ts ++ [t])) = (changeLast f (ts ++ [t])).map (u :: ·) := by
      cases ts <;> rfl
    rw [List.cons_append, hcons, ih, Option.map_map]
    rfl

/-- Changes inside the last element of the array that was begun last. -/
theorem inOrder_elements (hk : es.lookup key = none) (ts : List Entries) (t : Entries) :
    inOrder (fs.map (changeAt · [key])) (es ++ [(key, .elements (ts ++ [t]))]) =
      (inOrder fs t).map fun t => es ++ [(key, .elements (ts ++ [t]))] := by
  induction fs generalizing t with
  | nil => rfl
  | cons f fs ih =>
    have hlast : changeLast (changeAt f []) (ts ++ [t]) = (f t).map fun t => ts ++ [t] := changeLast_append f ts t
    rw [List.map_cons, inOrder_cons, inOrder_cons, changeAt, lookup_last hk]
    show ((changeLast (changeAt f []) (ts ++ [t])).bind _).bind _ = _
    rw [hlast]
    cases f t with
    | none => rfl
    | some t' =>
      show inOrder _ (replaceEntry key _ _) = _
      rw [replaceEntry_last hk]
      exact ih t'

end Last

/-! ## What is written about values -/

/-- The values of a table that stand in its own lines. -/
def ownValues (entries : Table) : Table := entries.filter fun e => !hasHeader e.2

/-- The own values of a section are its plain ones. -/
theorem ownValues_append {own inner : Table} (hown : ∀ e ∈ own, e.2.IsPlain)
    (hinner : ∀ e ∈ inner, IsSection e.2) : ownValues (own ++ inner) = own := by
  have hfirst : own.filter (fun e => !hasHeader e.2) = own := by
    rw [List.filter_eq_self]
    intro e he
    rw [(hown e he).hasHeader]
    rfl
  have hsecond : inner.filter (fun e => !hasHeader e.2) = [] := by
    rw [List.filter_eq_nil_iff]
    intro e he
    rw [(hinner e he).hasHeader]
    decide
  unfold ownValues
  rw [List.filter_append, hfirst, hsecond, List.append_nil]

/-- What is written about a value adds it under its key. -/
def AddsValue (v : Value) : Prop :=
  ∀ (path : List String) (key : String), ∃ fs node, Node.toValue node = v ∧
    Makes path (blockStatements path key v).flatten fs ∧ Adds fs [(key, node)]

/-- What is written about a table and in it, its header apart, adds its entries. -/
def AddsContents (t : Table) : Prop :=
  ∀ path : List String, ∃ gs nodes, Node.toEntries nodes = t ∧
    Makes path (entryStatements path t).flatten gs ∧ Adds (additions (ownValues t) ++ gs) nodes

theorem entryStatements_append (path : List String) (xs ys : Table) :
    entryStatements path (xs ++ ys) = entryStatements path xs ++ entryStatements path ys := by
  induction xs with
  | nil => rw [entryStatements]; rfl
  | cons e xs ih => rw [List.cons_append, entryStatements, entryStatements, ih, List.append_assoc]

/-- Plain values make no statements of their own. -/
theorem entryStatements_own {own : Table} (hown : ∀ e ∈ own, e.2.IsPlain) (path : List String) :
    entryStatements path own = [] := by
  induction own with
  | nil => rw [entryStatements]
  | cons e own ih =>
    obtain ⟨he, hown⟩ := List.forall_mem_cons.1 hown
    have hnone : blockStatements path e.1 e.2 = [] := by
      cases hv : e.2 <;> rw [hv] at he <;> first | exact he.elim | rfl
    rw [entryStatements, hnone, ih hown, List.append_nil]

/-- The values that get headers are added one after another. -/
theorem exists_entries {inner : Table} (hinner : ∀ e ∈ inner, AddsValue e.2)
    (hkeys : (inner.map (·.1)).Nodup) (path : List String) :
    ∃ fs nodes, Node.toEntries nodes = inner ∧ Makes path (entryStatements path inner).flatten fs ∧
      Adds fs nodes := by
  induction inner with
  | nil =>
    refine ⟨[], [], rfl, ?_, .nil⟩
    rw [entryStatements]
    exact .nil path
  | cons e inner ih =>
    obtain ⟨he, hinner⟩ := List.forall_mem_cons.1 hinner
    obtain ⟨fs, node, hnode, hmakes, hadds⟩ := he path e.1
    obtain ⟨gs, nodes, hnodes, hmakes', hadds'⟩ := ih hinner (List.nodup_cons.1 hkeys).2
    have hentries : Node.toEntries ([(e.1, node)] ++ nodes) = e :: inner := by
      rw [toEntries_append, hnodes]
      show (e.1, Node.toValue node) :: inner = _
      rw [hnode]
    refine ⟨fs ++ gs, [(e.1, node)] ++ nodes, hentries, ?_, hadds.append hadds' ?_⟩
    · rw [entryStatements, List.flatten_append]
      exact hmakes.append hmakes'
    · rwa [← keys_toEntries, hentries]

/-- A section is put together from its own values and the sections in it. -/
theorem addsContents {own inner : Table} (hown : ∀ e ∈ own, e.2.IsPlain)
    (hinner : ∀ e ∈ inner, IsSection e.2) (hadds : ∀ e ∈ inner, AddsValue e.2)
    (hkeys : ((own ++ inner).map (·.1)).Nodup) : AddsContents (own ++ inner) := by
  intro path
  have hparts := hkeys
  rw [List.map_append, List.nodup_append] at hparts
  obtain ⟨gs, nodes, hnodes, hmakes, hgs⟩ := exists_entries hadds hparts.2.1 path
  have hentries : Node.toEntries (valueNodes own ++ nodes) = own ++ inner := by
    rw [toEntries_append, toEntries_valueNodes, hnodes]
  refine ⟨gs, valueNodes own ++ nodes, hentries, ?_, ?_⟩
  · rw [entryStatements_append, entryStatements_own hown, List.nil_append]
    exact hmakes
  · rw [ownValues_append hown hinner]
    refine (adds_additions hparts.1).append hgs ?_
    rwa [← keys_toEntries, hentries]

theorem inOrder_of_adds {fs : List (Entries → Option Entries)} {nodes : Entries} (h : Adds fs nodes) :
    inOrder fs [] = some nodes := h [] fun _ _ => rfl

/-- **A table is added under its key**, with or without a header of its own. -/
theorem addsValue_table {t : Table} (h : AddsContents t) : AddsValue (.table t) := by
  intro path key
  obtain ⟨gs, nodes, hnodes, hmakes, hadds⟩ := h (path ++ [key])
  by_cases hshow : showsHeader t = true
  · -- the header begins the table, and everything else happens in it
    refine ⟨beginTable key :: (additions (ownValues t) ++ gs).map (changeAt · [key]), .table .explicit nodes,
      congrArg Value.table hnodes, ?_, ?_⟩
    · rw [blockStatements, if_pos hshow, List.flatten_append, List.flatten_singleton, List.map_append]
      exact (makes_header path key (ownValues t)).append hmakes.inside
    · intro es hfresh
      have hk : es.lookup key = none := hfresh _ List.mem_cons_self
      have hbegin : beginTable key es = some (es ++ [(key, .table .explicit [])]) := by
        unfold beginTable
        rw [hk]
      rw [inOrder_cons, hbegin, Option.bind_some, inOrder_table hk, inOrder_of_adds hadds]
      rfl
  · -- no values of its own stand in the table, and it is implied by what is inside it
    have hempty : t ≠ [] := by
      rintro rfl
      exact hshow rfl
    have hown : ownValues t = [] := by
      unfold showsHeader at hshow
      simp only [Bool.or_eq_true, not_or, List.any_eq_true, not_exists, not_and] at hshow
      exact List.filter_eq_nil_iff.2 hshow.2
    rw [hown] at hadds
    have hadds : Adds gs nodes := hadds
    have hne : gs ≠ [] := hadds.ne_nil fun hnil => hempty (by rw [← hnodes, hnil]; rfl)
    refine ⟨gs.map (changeAt · [key]), .table .implied nodes, congrArg Value.table hnodes, ?_, ?_⟩
    · rw [blockStatements, if_neg hshow, List.nil_append]
      exact hmakes.inside
    · intro es hfresh
      have hk : es.lookup key = none := hfresh _ List.mem_cons_self
      rw [inOrder_implied hk hne, inOrder_of_adds hadds]
      rfl

theorem beginElement_last {es : Entries} {key : String} (hk : es.lookup key = none) (ts : List Entries) :
    beginElement key (es ++ [(key, .elements ts)]) = some (es ++ [(key, .elements (ts ++ [[]]))]) := by
  unfold beginElement
  rw [lookup_last hk]
  exact congrArg some (replaceEntry_last hk _ _)

/-- What is written about one item of an array adds it at its end. -/
theorem exists_item {u : Table} (hu : AddsContents u) (path : List String) (key : String) :
    ∃ fs nodes, Node.toEntries nodes = u ∧
      Makes path ((.element path key :: lineStatements u) ++ (entryStatements (path ++ [key]) u).flatten) fs ∧
      ∀ (es es' : Entries) (ts : List Entries), es.lookup key = none →
        beginElement key es' = some (es ++ [(key, .elements (ts ++ [[]]))]) →
        inOrder fs es' = some (es ++ [(key, .elements (ts ++ [nodes]))]) := by
  obtain ⟨gs, nodes, hnodes, hmakes, hadds⟩ := hu (path ++ [key])
  refine ⟨beginElement key :: (additions (ownValues u) ++ gs).map (changeAt · [key]), nodes, hnodes, ?_, ?_⟩
  · rw [List.map_append]
    exact (makes_element path key (ownValues u)).append hmakes.inside
  · intro es es' ts hk hbegin
    rw [inOrder_cons, hbegin, Option.bind_some, inOrder_elements hk, inOrder_of_adds hadds]
    rfl

/-- The elements of an array are added after those that are there. -/
theorem exists_items {us : List Table} (h : ∀ u ∈ us, AddsContents u) (path : List String) (key : String) :
    ∃ fs tables, Node.toItems tables = us.map .table ∧
      Makes path (itemStatements path key (us.map .table)).flatten fs ∧
      ∀ (es : Entries) (ts : List Entries), es.lookup key = none →
        inOrder fs (es ++ [(key, .elements ts)]) = some (es ++ [(key, .elements (ts ++ tables))]) := by
  induction us with
  | nil =>
    refine ⟨[], [], rfl, ?_, fun es ts _ => by rw [List.append_nil]; rfl⟩
    rw [List.map_nil, itemStatements]
    exact .nil path
  | cons u us ih =>
    obtain ⟨hu, hus⟩ := List.forall_mem_cons.1 h
    obtain ⟨fs, nodes, hnodes, hmakes, hadds⟩ := exists_item hu path key
    obtain ⟨gs, tables, htables, hmakes', hadds'⟩ := ih hus
    refine ⟨fs ++ gs, nodes :: tables, ?_, ?_, ?_⟩
    · show Value.table (Node.toEntries nodes) :: Node.toItems tables = _
      rw [hnodes, htables]
      rfl
    · rw [List.map_cons, itemStatements, List.flatten_append, List.flatten_cons]
      exact hmakes.append hmakes'
    · intro es ts hk
      rw [inOrder_append, hadds es _ ts hk (beginElement_last hk ts), Option.bind_some, hadds' es _ hk,
        List.append_assoc]
      rfl

/-- **An array of tables is added under its key.** -/
theorem addsValue_array {t : Table} {ts : List Table} (h : ∀ u ∈ t :: ts, AddsContents u) :
    AddsValue (.array ((t :: ts).map .table)) := by
  intro path key
  obtain ⟨ht, hts⟩ := List.forall_mem_cons.1 h
  -- the first item begins the array, and the others are added to one that is there
  obtain ⟨fs, nodes, hnodes, hmakes, hadds⟩ := exists_item ht path key
  obtain ⟨gs, tables, htables, hmakes', hadds'⟩ := exists_items hts path key
  refine ⟨fs ++ gs, .elements (nodes :: tables), ?_, ?_, ?_⟩
  · show Value.array (Value.table (Node.toEntries nodes) :: Node.toItems tables) = _
    rw [hnodes, htables]
    rfl
  · rw [blockStatements, if_pos (hasHeader_items t ts), List.map_cons, itemStatements, List.flatten_append,
      List.flatten_cons]
    exact hmakes.append hmakes'
  · intro es hfresh
    have hk : es.lookup key = none := hfresh _ List.mem_cons_self
    have hbegin : beginElement key es = some (es ++ [(key, .elements ([] ++ [[]]))]) := by
      unfold beginElement
      rw [hk]
      rfl
    rw [inOrder_append, hadds es es [] hk hbegin, Option.bind_some, hadds' es _ hk]
    rfl

/-- **Values in sections are added under their keys**, and so are the contents of tables among them. -/
theorem addsValue_of_isSection {v : Value} (h : IsSection v) :
    AddsValue v ∧ ∀ t, v = .table t → AddsContents t := by
  -- the second part is for arrays: an item is added under no key, so `AddsValue` says too little of it
  induction h with
  | table hown hinner hkeys ih =>
    have hcontents := addsContents hown hinner (fun e he => (ih e he).1) hkeys
    refine ⟨addsValue_table hcontents, ?_⟩
    rintro t ⟨⟩
    exact hcontents
  | array h ih =>
    exact ⟨addsValue_array fun u hu => (ih u hu).2 u rfl, nofun⟩

/-! ## Whole tables -/

/-- The statements of a document, block by block: the values of the table itself, and its sections. -/
def documentStatements (t : Table) : List (List Statement) :=
  (if (ownValues t).isEmpty then [] else [lineStatements t]) ++ entryStatements [] t

/-- **What is written about a table, carried out from nothing, gives the table.** -/
theorem carryOut_documentStatements {t : Table} (h : IsSection (.table t)) :
    (carryOut (documentStatements t).flatten ([], [])).map (fun state => Node.toEntries state.2) = some t := by
  obtain ⟨gs, nodes, hnodes, hmakes, hadds⟩ := (addsValue_of_isSection h).2 t rfl []
  have hat : ∀ fs : List (Entries → Option Entries), fs.map (changeAt · []) = fs := by
    intro fs
    have hid : (fun f : Entries → Option Entries => changeAt f []) = id := by
      funext f es
      rfl
    rw [hid, List.map_id]
  have hlines : (if (ownValues t).isEmpty then [] else [lineStatements t] : List (List Statement)).flatten =
      lineStatements t := by
    split
    · rename_i hempty
      have hnil : lineStatements t = [] := by
        show (ownValues t).map _ = _
        rw [List.isEmpty_iff.1 hempty]
        rfl
      rw [hnil]
      rfl
    · exact List.flatten_singleton
  have hown := carryOut_lines (ownValues t) [] []
  unfold documentStatements
  rw [List.flatten_append, hlines, carryOut_append]
  unfold lineStatements
  rw [show t.filter (fun e => !hasHeader e.2) = ownValues t from rfl, hown, hat]
  have hresult := inOrder_of_adds hadds
  rw [inOrder_append] at hresult
  -- the lines come first, and what they leave is where the sections begin
  cases hfirst : inOrder (additions (ownValues t)) [] with
  | none => rw [hfirst] at hresult; cases hresult
  | some es =>
    rw [hfirst, Option.bind_some] at hresult
    have hrest := hmakes [] es
    rw [hat, hresult] at hrest
    show (carryOut _ ([], es)).map _ = _
    cases hstate : carryOut (entryStatements [] t).flatten ([], es) with
    | none => rw [hstate] at hrest; cases hrest
    | some state =>
      rw [hstate] at hrest
      have hnode : state.2 = nodes := Option.some.inj hrest
      rw [Option.map_some, hnode, hnodes]

end GuestDisks.Toml
