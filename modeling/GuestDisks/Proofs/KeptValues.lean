import GuestDisks.Document.Entry
import GuestDisks.Proofs.Agreement
import GuestDisks.Proofs.Records

/-!
# Values that no part of a document takes

Such a value is kept with its tables in the order of their keys, and written with the entries of each
table in another order. Reading keeps values as they were kept (`Value.isKept_of_kept`), whatever the
order in which they are written, but for one case: a table that is written with the key of date-times
first is taken for the date-time that it spells.

* `readsBack_list_iff`, `readsBack_entries_iff`: lists and maps are read back if their parts are.
* `Value.readsBack_grouped_iff`: a kept value is read back exactly if no table in it is written like a
  date-time.
-/

namespace GuestDisks.Data

variable {α β : Type}

/-! ## Lists and maps -/

/-- Values are read one by one exactly if each of them is. -/
theorem mapM_eq_ok_iff {f : α → Except Fault β} {xs : List α} {ys : List β} :
    xs.mapM f = .ok ys ↔ List.Forall₂ (fun x y => f x = .ok y) xs ys := by
  induction xs generalizing ys with
  | nil =>
    rw [List.mapM_nil, List.forall₂_nil_left_iff]
    constructor
    · rintro ⟨⟩; rfl
    · rintro rfl; rfl
  | cons x xs ih =>
    rw [List.mapM_cons, bind_eq_ok_iff, List.forall₂_cons_left_iff]
    constructor
    · rintro ⟨y, hy, h⟩
      obtain ⟨l, hl, ⟨⟩⟩ := bind_eq_ok_iff.1 h
      exact ⟨y, l, hy, ih.1 hl, rfl⟩
    · rintro ⟨y, l, hy, hl, rfl⟩
      exact ⟨y, hy, bind_eq_ok_iff.2 ⟨l, ih.2 hl, rfl⟩⟩

theorem exists_of_mem_forall₂ {R : α → β → Prop} {xs : List α} {ys : List β} (h : List.Forall₂ R xs ys)
    {x : α} (hx : x ∈ xs) : ∃ y ∈ ys, R x y := by
  induction h with
  | nil => cases hx
  | @cons a b as bs hab _ ih =>
    rcases List.mem_cons.1 hx with rfl | hx
    · exact ⟨b, List.mem_cons_self .., hab⟩
    · obtain ⟨y, hy, hr⟩ := ih hx
      exact ⟨y, List.mem_cons_of_mem _ hy, hr⟩

/-- A reader takes what is written for a value back to one that agrees with it. -/
def ReadsBack [BEq β] (read : Reader α β) (v : α) (b : β) : Prop :=
  ∃ b', read v = .ok b' ∧ (b' == b) = true

/-- **A list is read back if its elements are.** -/
theorem readsBack_list_iff [BEq β] {read : Reader α β} (write : β → α) {bs : List β} :
    ReadsBack (List.mapM read) (bs.map write) bs ↔ ∀ b ∈ bs, ReadsBack read (write b) b := by
  induction bs with
  | nil => exact ⟨fun _ => nofun, fun _ => ⟨[], rfl, rfl⟩⟩
  | cons b bs ih =>
    rw [List.forall_mem_cons, ← ih, List.map_cons]
    constructor
    · rintro ⟨l, hl, hbeq⟩
      rw [List.mapM_cons, bind_eq_ok_iff] at hl
      obtain ⟨b', hb', hl⟩ := hl
      obtain ⟨bs', hbs', ⟨⟩⟩ := bind_eq_ok_iff.1 hl
      rw [List.cons_beq_cons, Bool.and_eq_true] at hbeq
      exact ⟨⟨b', hb', hbeq.1⟩, ⟨bs', hbs', hbeq.2⟩⟩
    · rintro ⟨⟨b', hb', hbeq⟩, ⟨bs', hbs', hbeqs⟩⟩
      refine ⟨b' :: bs', ?_, ?_⟩
      · rw [List.mapM_cons]
        exact bind_eq_of_ok hb' (bind_eq_of_ok hbs' rfl)
      · rw [List.cons_beq_cons, hbeq, hbeqs]; rfl

/-- Reads a value that stands under a key. -/
def readEntry (read : Reader α β) (m : String × α) : Except Fault (String × β) := do
  return (m.1, ← read m.2)

/-- Reads the values of a map, each by itself. -/
def readEntries (read : Reader α β) (ms : Members α) : Except Fault (KeyMap β) := do
  let es ← ms.mapM (readEntry read)
  return .ofList es

/-- An entry is read by its value, and keeps its key. -/
theorem readEntry_eq_ok_iff {read : Reader α β} {m : String × α} {e : String × β} :
    readEntry read m = .ok e ↔ e.1 = m.1 ∧ read m.2 = .ok e.2 := by
  unfold readEntry
  rw [bind_eq_ok_iff]
  constructor
  · rintro ⟨b, hb, ⟨⟩⟩; exact ⟨rfl, hb⟩
  · rintro ⟨hk, hb⟩
    exact ⟨e.2, hb, congrArg Except.ok (Prod.ext hk.symm rfl)⟩

theorem map_key_of_readEntry {read : Reader α β} {ms : Members α} {es : List (String × β)}
    (h : ms.mapM (readEntry read) = .ok es) : es.map (·.1) = ms.map (·.1) := by
  rw [mapM_eq_ok_iff] at h
  induction h with
  | nil => rfl
  | cons he _ ih => rw [List.map_cons, List.map_cons, (readEntry_eq_ok_iff.1 he).1, ih]

/-- The order in which the entries of a map stand does not matter. -/
theorem readEntries_of_perm {read : Reader α β} {ms l : Members α} {m : KeyMap β}
    (hn : (ms.map (·.1)).Nodup) (hl : l.Perm ms) (h : readEntries read ms = .ok m) :
    readEntries read l = .ok m := by
  obtain ⟨es, hes, ⟨⟩⟩ := bind_eq_ok_iff.1 h
  have hkeys : (es.map (·.1)).Nodup := by rwa [map_key_of_readEntry hes]
  obtain ⟨fs, hfs, hperm⟩ := List.perm_comp_forall₂ hl (mapM_eq_ok_iff.1 hes)
  refine bind_eq_of_ok (mapM_eq_ok_iff.2 hfs) ?_
  show Except.ok (KeyMap.ofList fs) = _
  rw [KeyMap.ofList_perm hkeys hperm]

/-- An entry is read back exactly if its value is. -/
theorem readsBack_entry_iff [BEq β] {read : Reader α β} {v : α} {e : String × β} :
    ReadsBack (readEntry read) (e.1, v) e ↔ ReadsBack read v e.2 := by
  constructor
  · rintro ⟨e', hread, hbeq⟩
    have hvalue : (e'.2 == e.2) = true := (Bool.and_eq_true_iff.1 hbeq).2
    exact ⟨e'.2, (readEntry_eq_ok_iff.1 hread).2, hvalue⟩
  · rintro ⟨b, hread, hbeq⟩
    refine ⟨(e.1, b), readEntry_eq_ok_iff.2 ⟨rfl, hread⟩, ?_⟩
    exact Bool.and_eq_true_iff.2 ⟨beq_self_eq_true e.1, hbeq⟩

/-- Entries whose keys ascend are those of the map that is read. -/
theorem readEntries_eq_ok_iff {read : Reader α β} {ms : Members α} {m : KeyMap β}
    (ha : Ascending ms) : readEntries read ms = .ok m ↔ ms.mapM (readEntry read) = .ok m.entries := by
  unfold readEntries
  rw [bind_eq_ok_iff]
  constructor
  · rintro ⟨es, hes, ⟨⟩⟩
    have hkeys : (es.map (·.1)).Pairwise (· < ·) := by
      rw [map_key_of_readEntry hes]
      exact List.pairwise_map.2 ha
    have hasc : Ascending es := List.pairwise_map.1 hkeys
    have hmap : KeyMap.ofList es = ⟨es, hasc⟩ := KeyMap.ofList_entries ⟨es, hasc⟩
    rw [hmap]
    exact hes
  · intro h
    exact ⟨m.entries, h, congrArg Except.ok (KeyMap.ofList_entries m)⟩

/-- Every value that is read stood under its key. -/
theorem exists_of_mem_readEntries {read : Reader α β} {ms : Members α} {m : KeyMap β} {e : String × β}
    (h : readEntries read ms = .ok m) (he : e ∈ m.entries) : ∃ v, (e.1, v) ∈ ms ∧ read v = .ok e.2 := by
  obtain ⟨es, hes, ⟨⟩⟩ := bind_eq_ok_iff.1 h
  have hlookup := KeyMap.get?_eq_some_iff.2 he
  rw [KeyMap.get?_ofList] at hlookup
  have hmem : e ∈ es := List.mem_reverse.1 (mem_of_lookup hlookup)
  obtain ⟨⟨k, v⟩, hv, hread⟩ := exists_of_mem_forall₂ (mapM_eq_ok_iff.1 hes).flip hmem
  obtain ⟨rfl, hr⟩ := readEntry_eq_ok_iff.1 hread
  exact ⟨v, hv, hr⟩

/-- **A map is read back if its values are**, in whatever order its entries stand. -/
theorem readsBack_entries_iff [BEq β] {read : Reader α β} (write : β → α) {m : KeyMap β} {ms : Members α}
    (hms : ms.Perm (m.entries.map fun e => (e.1, write e.2))) :
    ReadsBack (readEntries read) ms m ↔ ∀ e ∈ m.entries, ReadsBack read (write e.2) e.2 := by
  have hkeys : (m.entries.map fun e => (e.1, write e.2)).map (·.1) = m.entries.map (·.1) := by
    rw [List.map_map]; rfl
  have hasc : Ascending (m.entries.map fun e => (e.1, write e.2)) := by
    rw [Ascending, List.pairwise_map]
    exact m.ascending
  have hn : ((m.entries.map fun e => (e.1, write e.2)).map (·.1)).Nodup := by
    rw [hkeys]; exact m.nodup_keys
  have hnms : (ms.map (·.1)).Nodup := (hms.map (·.1)).nodup_iff.2 hn
  -- in the order of their keys, the entries are those of the map, one by one
  have hlist : ReadsBack (readEntries read) ms m ↔ ReadsBack (List.mapM (readEntry read))
      (m.entries.map fun e => (e.1, write e.2)) m.entries := by
    constructor
    · rintro ⟨m', hread, hbeq⟩
      have hsorted := readEntries_of_perm hnms hms.symm hread
      exact ⟨m'.entries, (readEntries_eq_ok_iff hasc).1 hsorted, hbeq⟩
    · rintro ⟨es, hread, hbeq⟩
      have hpairs : (es.map (·.1)).Pairwise (· < ·) := by
        rw [map_key_of_readEntry hread, hkeys]
        exact List.pairwise_map.2 m.ascending
      let m' : KeyMap β := ⟨es, List.pairwise_map.1 hpairs⟩
      have hm' : readEntries read _ = .ok m' := (readEntries_eq_ok_iff hasc).2 hread
      exact ⟨m', readEntries_of_perm hn hms hm', hbeq⟩
  rw [hlist, readsBack_list_iff fun e : String × β => (e.1, write e.2)]
  exact forall₂_congr fun e _ => readsBack_entry_iff

end GuestDisks.Data

namespace GuestDisks.Toml.Value

open Data

mutual

/-- Whether the value, or one that stands in it, passes a test. -/
def holds (p : Value → Bool) : Value → Bool
  | .array items => p (.array items) || itemsHold p items
  | .table entries => p (.table entries) || entriesHold p entries
  | v => p v

def itemsHold (p : Value → Bool) : List Value → Bool
  | [] => false
  | v :: vs => holds p v || itemsHold p vs

def entriesHold (p : Value → Bool) : List (String × Value) → Bool
  | [] => false
  | (_, v) :: es => holds p v || entriesHold p es

end

section

variable {p : Value → Bool} {items : List Value} {entries : List (String × Value)}

theorem holds_array_eq_false_iff : holds p (.array items) = false ↔
    p (.array items) = false ∧ ∀ v ∈ items, v.holds p = false := by
  have hitems : itemsHold p items = false ↔ ∀ v ∈ items, v.holds p = false := by
    induction items with
    | nil => exact ⟨fun _ => nofun, fun _ => rfl⟩
    | cons v vs ih => rw [itemsHold, Bool.or_eq_false_iff, ih, List.forall_mem_cons]
  rw [holds, Bool.or_eq_false_iff, hitems]

/-- No value in a table passes a test if neither the table nor a value in its entries does. -/
theorem holds_table_eq_false_iff : holds p (.table entries) = false ↔
    p (.table entries) = false ∧ ∀ e ∈ entries, e.2.holds p = false := by
  have hentries : entriesHold p entries = false ↔ ∀ e ∈ entries, e.2.holds p = false := by
    induction entries with
    | nil => exact ⟨fun _ => nofun, fun _ => rfl⟩
    | cons e es ih => rw [entriesHold, Bool.or_eq_false_iff, ih, List.forall_mem_cons]
  rw [holds, Bool.or_eq_false_iff, hentries]

end

def isNaN : Value → Bool
  | .float x => x.isNaN
  | _ => false

/-- Whether the value is a table that begins in the way in which a date-time shows itself. -/
def spellsDatetime : Value → Bool
  | .table entries => (leadingSpelling? entries).isSome
  | _ => false

theorem keptItems_eq_mapM (alone : Bool) (items : List Value) :
    keptItems alone items = items.mapM (kept alone) := by
  induction items with
  | nil => rfl
  | cons v vs ih => rw [keptItems, List.mapM_cons, ih]

/-- The entries of a table are kept one by one, the last first. -/
theorem keptEntries_eq_ok_iff {alone : Bool} {es l : List (String × Value)} :
    keptEntries alone es = .ok l ↔ ∃ m, readEntries (kept alone) es.reverse = .ok m ∧ m.entries = l := by
  -- each entry is put into the map of those after it
  have hstep : keptEntries alone es = .ok l ↔ ∃ ks, es.mapM (readEntry (kept alone)) = .ok ks ∧
      (KeyMap.ofList ks.reverse).entries = l := by
    induction es generalizing l with
    | nil =>
      constructor
      · rintro ⟨⟩; exact ⟨[], rfl, rfl⟩
      · rintro ⟨ks, ⟨⟩, rfl⟩; rfl
    | cons e es ih =>
      rw [keptEntries, bind_eq_ok_iff, List.mapM_cons]
      constructor
      · rintro ⟨v, hv, h⟩
        obtain ⟨l', hl', ⟨⟩⟩ := bind_eq_ok_iff.1 h
        obtain ⟨ks, hks, rfl⟩ := ih.1 hl'
        have he : readEntry (kept alone) e = .ok (e.1, v) := readEntry_eq_ok_iff.2 ⟨rfl, hv⟩
        refine ⟨(e.1, v) :: ks, bind_eq_of_ok he (bind_eq_of_ok hks rfl), ?_⟩
        rw [List.reverse_cons, KeyMap.ofList_concat]; rfl
      · rintro ⟨_, h, rfl⟩
        obtain ⟨⟨k, v⟩, he, h⟩ := bind_eq_ok_iff.1 h
        obtain ⟨ks, hks, ⟨⟩⟩ := bind_eq_ok_iff.1 h
        obtain ⟨rfl, hv⟩ := readEntry_eq_ok_iff.1 he
        refine ⟨v, hv, bind_eq_of_ok (ih.2 ⟨ks, hks, rfl⟩) ?_⟩
        rw [List.reverse_cons, KeyMap.ofList_concat]; rfl
  rw [hstep]
  constructor
  · rintro ⟨ks, hks, rfl⟩
    have hrev := mapM_eq_ok_iff.2 (List.forall₂_reverse_iff.2 (mapM_eq_ok_iff.1 hks))
    exact ⟨_, bind_eq_of_ok hrev rfl, rfl⟩
  · rintro ⟨m, hm, rfl⟩
    obtain ⟨ks, hks, ⟨⟩⟩ := bind_eq_ok_iff.1 hm
    have hrev := List.forall₂_reverse_iff.2 (mapM_eq_ok_iff.1 hks)
    rw [List.reverse_reverse] at hrev
    refine ⟨ks.reverse, mapM_eq_ok_iff.2 hrev, ?_⟩
    rw [List.reverse_reverse]

/-! ## Values that were kept -/

/-- The values that reading keeps: every date is in the calendar, and every table ascends. -/
inductive IsKept : Value → Prop
  | string (s : String) : IsKept (.string s)
  | integer (n : Int) : IsKept (.integer n)
  | float (x : Binary64) : IsKept (.float x)
  | boolean (b : Bool) : IsKept (.boolean b)
  | datetime {d : Datetime} (h : d.inCalendar = true) : IsKept (.datetime d)
  | array {items : List Value} (h : ∀ v ∈ items, IsKept v) : IsKept (.array items)
  | table {entries : List (String × Value)} (ha : Ascending entries) (h : ∀ e ∈ entries, IsKept e.2) :
    IsKept (.table entries)

/-- A date is accepted exactly if it is in the calendar. -/
theorem checked_eq_ok_iff {d d' : Datetime} : d.checked = .ok d' ↔ d.inCalendar = true ∧ d' = d := by
  unfold Datetime.checked Datetime.inCalendar
  cases d.date? with
  | none => simp [eq_comm]
  | some day =>
    by_cases h : day.inCalendar = true
    · simp [h, eq_comm]
    · simp [h]

/-- A date that a table spells is in the calendar. -/
theorem inCalendar_of_spelled {v : Value} {d : Datetime} (h : spelled v = .ok d) : d.inCalendar = true := by
  cases v with
  | string s =>
    simp only [spelled] at h
    cases ht : Datetime.ofText? s with
    | none => rw [ht] at h; cases h
    | some d' =>
      rw [ht] at h
      obtain ⟨hd, rfl⟩ := checked_eq_ok_iff.1 h
      exact hd
  | _ => cases h

theorem sizeOf_lt_of_mem {es : List (String × Value)} {e : String × Value} (h : e ∈ es) :
    sizeOf e.2 < sizeOf es := by
  have hentry : sizeOf e < sizeOf es := List.sizeOf_lt_of_mem h
  have hpair : sizeOf e = 1 + sizeOf e.1 + sizeOf e.2 := rfl
  omega

/-- **What is kept stays so**: its tables ascend, and its dates are in the calendar. -/
theorem isKept_of_kept {alone : Bool} : ∀ {v w : Value}, kept alone v = .ok w → IsKept w
  | .string s, _, h => by cases h; exact .string s
  | .integer n, _, h => by cases h; exact .integer n
  | .float x, _, h => by cases h; exact .float x
  | .boolean b, _, h => by cases h; exact .boolean b
  | .datetime d, w, h => by
    cases hd : d.checked with
    | error fault => rw [kept, hd] at h; cases h
    | ok d' =>
      rw [kept, hd] at h
      obtain ⟨hcal, rfl⟩ := checked_eq_ok_iff.1 hd
      cases h
      exact .datetime hcal
  | .array items, w, h => by
    cases hi : keptItems alone items with
    | error fault => rw [kept, hi] at h; cases h
    | ok vs =>
      rw [kept, hi] at h
      cases h
      rw [keptItems_eq_mapM, mapM_eq_ok_iff] at hi
      refine .array fun v hv => ?_
      obtain ⟨u, hu, hkept⟩ := exists_of_mem_forall₂ hi.flip hv
      exact isKept_of_kept hkept
  | .table entries, w, h => by
    cases hl : leadingSpelling? entries with
    | some s =>
      -- the table spells a date-time, and is kept as that
      rw [kept, hl] at h
      obtain ⟨d, hd, h⟩ := bind_eq_ok_iff.1 h
      split at h
      · cases h
      · cases h
        exact .datetime (inCalendar_of_spelled hd)
    | none =>
      rw [kept, hl] at h
      cases he : keptEntries alone entries with
      | error fault => rw [he] at h; cases h
      | ok es =>
        rw [he] at h
        cases h
        obtain ⟨m, hm, rfl⟩ := keptEntries_eq_ok_iff.1 he
        -- the entries are put in order, so an entry that is kept stands anywhere in those that were read
        refine .table m.ascending fun e hmem => ?_
        obtain ⟨v, hv, hkept⟩ := exists_of_mem_readEntries hm hmem
        have hsize : sizeOf v < sizeOf entries := sizeOf_lt_of_mem (List.mem_reverse.1 hv)
        exact isKept_of_kept hkept
termination_by v => sizeOf v

/-! ## Values as they are written -/

theorem groupedItems_eq_map (items : List Value) : groupedItems items = items.map grouped := by
  induction items with
  | nil => rfl
  | cons v vs ih => rw [groupedItems, List.map_cons, ih]

theorem groupedEntries_eq_map (es : List (String × Value)) :
    groupedEntries es = es.map fun e => (e.1, e.2.grouped) := by
  induction es with
  | nil => rfl
  | cons e es ih => rw [groupedEntries, List.map_cons, ih]

/-- No value is both a table and an array. -/
theorem holdsTable_of_isTable {v : Value} (h : v.isTable = true) : v.holdsTable = false := by
  cases v with
  | table entries => rfl
  | _ => cases h

/-- **A table is written with its entries in another order**, each as it is written itself. -/
theorem exists_grouped_table (es : List (String × Value)) :
    ∃ l, grouped (.table es) = .table l ∧ l.Perm (es.map fun e => (e.1, e.2.grouped)) := by
  refine ⟨_, rfl, ?_⟩
  rw [groupedEntries_eq_map]
  generalize es.map (fun e => (e.1, e.2.grouped)) = l
  -- plain values and arrays of tables are the two parts of what is no table
  have hplain : (l.filter fun e => !e.2.isTable && !e.2.holdsTable) =
      (l.filter fun e => !e.2.isTable).filter fun e => !e.2.holdsTable := by
    rw [List.filter_filter]
    exact List.filter_congr fun e _ => Bool.and_comm ..
  have harrays : (l.filter fun e => e.2.holdsTable) =
      (l.filter fun e => !e.2.isTable).filter fun e => e.2.holdsTable := by
    rw [List.filter_filter]
    refine List.filter_congr fun e _ => ?_
    cases ht : e.2.isTable with
    | false => simp
    | true => simp [holdsTable_of_isTable ht]
  rw [hplain, harrays]
  have hflat : ((l.filter fun e => !e.2.isTable).filter (fun e => !e.2.holdsTable) ++
      (l.filter fun e => !e.2.isTable).filter (fun e => e.2.holdsTable)).Perm
      (l.filter fun e => !e.2.isTable) :=
    List.perm_append_comm.trans (List.filter_append_perm _ _)
  have hall : ((l.filter fun e => !e.2.isTable) ++ l.filter (fun e => e.2.isTable)).Perm l :=
    List.perm_append_comm.trans (List.filter_append_perm _ _)
  exact (hflat.append_right _).trans hall

theorem sameItems_eq_beq (as bs : List Value) : sameItems as bs = (as == bs) := by
  induction as generalizing bs with
  | nil => cases bs <;> rfl
  | cons a as ih =>
    cases bs with
    | nil => rfl
    | cons b bs => rw [sameItems, ih]; rfl

theorem sameEntries_eq_beq (as bs : List (String × Value)) : sameEntries as bs = (as == bs) := by
  induction as generalizing bs with
  | nil => cases bs <;> rfl
  | cons a as ih =>
    cases bs with
    | nil => rfl
    | cons b bs => rw [sameEntries, ih]; rfl

/-- An array is read back exactly if its items are. -/
theorem readsBack_array_iff {l items : List Value} :
    ReadsBack (kept true) (.array l) (.array items) ↔ ReadsBack (List.mapM (kept true)) l items := by
  unfold ReadsBack
  rw [kept, keptItems_eq_mapM]
  constructor
  · rintro ⟨v, hread, hsame⟩
    cases hl : l.mapM (kept true) with
    | error fault => rw [hl] at hread; cases hread
    | ok items' =>
      rw [hl] at hread
      cases hread
      exact ⟨items', rfl, (sameItems_eq_beq items' items).symm.trans hsame⟩
  · rintro ⟨items', hread, hbeq⟩
    rw [hread]
    exact ⟨.array items', rfl, (sameItems_eq_beq items' items).trans hbeq⟩

/-- A table that does not begin like a date-time is read back as the map of its entries. -/
theorem readsBack_table_iff {l : List (String × Value)} {m : KeyMap Value} (hl : leadingSpelling? l = none) :
    ReadsBack (kept true) (.table l) (.table m.entries) ↔
      ReadsBack (readEntries (kept true)) l.reverse m := by
  unfold ReadsBack
  rw [kept, hl]
  constructor
  · rintro ⟨v, hread, hsame⟩
    cases he : keptEntries true l with
    | error fault => rw [he] at hread; cases hread
    | ok es =>
      rw [he] at hread
      cases hread
      obtain ⟨m', hm', rfl⟩ := keptEntries_eq_ok_iff.1 he
      exact ⟨m', hm', (sameEntries_eq_beq m'.entries m.entries).symm.trans hsame⟩
  · rintro ⟨m', hread, hbeq⟩
    have he : keptEntries true l = .ok m'.entries := keptEntries_eq_ok_iff.2 ⟨m', hread, rfl⟩
    rw [he]
    exact ⟨.table m'.entries, rfl, (sameEntries_eq_beq m'.entries m.entries).trans hbeq⟩

/-- One that does is a date-time, or nothing. -/
theorem not_readsBack_table {l es : List (String × Value)} (hl : (leadingSpelling? l).isSome = true) :
    ¬ ReadsBack (kept true) (.table l) (.table es) := by
  rintro ⟨v, hread, hsame⟩
  obtain ⟨s, hs⟩ := Option.isSome_iff_exists.1 hl
  rw [kept, hs] at hread
  obtain ⟨d, -, h⟩ := bind_eq_ok_iff.1 hread
  split at h
  · cases h
  · cases h; cases hsame

/-- **A kept value is read back exactly if no table in it, as it is written, spells a date-time.** -/
theorem readsBack_grouped_iff {v : Value} (hk : IsKept v) (hn : v.holds isNaN = false) :
    ReadsBack (kept true) v.grouped v ↔ v.grouped.holds spellsDatetime = false := by
  induction hk with
  | string s => exact ⟨fun _ => rfl, fun _ => ⟨.string s, rfl, beq_self_eq_true s⟩⟩
  | integer n => exact ⟨fun _ => rfl, fun _ => ⟨.integer n, rfl, beq_self_eq_true n⟩⟩
  | float x => exact ⟨fun _ => rfl, fun _ => ⟨.float x, rfl, Binary64.beq_self hn⟩⟩
  | boolean b => exact ⟨fun _ => rfl, fun _ => ⟨.boolean b, rfl, beq_self_eq_true b⟩⟩
  | @datetime d h =>
    have hkept : kept true (.datetime d) = .ok (.datetime d) := by
      rw [kept, checked_eq_ok_iff.2 ⟨h, rfl⟩]; rfl
    exact ⟨fun _ => rfl, fun _ => ⟨.datetime d, hkept, decide_eq_true rfl⟩⟩
  | @array items _ ih =>
    have hitems := (holds_array_eq_false_iff.1 hn).2
    rw [grouped, groupedItems_eq_map, readsBack_array_iff, readsBack_list_iff grouped, holds_array_eq_false_iff,
      List.forall_mem_map]
    constructor
    · intro h
      exact ⟨rfl, fun v hv => (ih v hv (hitems v hv)).1 (h v hv)⟩
    · rintro ⟨-, h⟩ v hv
      exact (ih v hv (hitems v hv)).2 (h v hv)
  | @table entries ha _ ih =>
    have hentries := (holds_table_eq_false_iff.1 hn).2
    obtain ⟨l, hl, hperm⟩ := exists_grouped_table entries
    rw [hl, holds_table_eq_false_iff]
    -- whether the table spells a date-time is seen in the order in which it is written
    show _ ↔ (leadingSpelling? l).isSome = false ∧ _
    cases hs : leadingSpelling? l with
    | some s =>
      have hsome : (leadingSpelling? l).isSome = true := by rw [hs]; rfl
      exact ⟨fun h => absurd h (not_readsBack_table hsome), nofun⟩
    | none =>
      -- otherwise that order is lost on reading, and the entries come back each by itself
      let m : KeyMap Value := ⟨entries, ha⟩
      have hrev : l.reverse.Perm (m.entries.map fun e => (e.1, e.2.grouped)) := l.reverse_perm.trans hperm
      have hread : ReadsBack (kept true) (.table l) (.table entries) ↔
          ∀ e ∈ entries, ReadsBack (kept true) e.2.grouped e.2 :=
        (readsBack_table_iff hs).trans (readsBack_entries_iff grouped hrev)
      have hholds : (∀ e ∈ l, e.2.holds spellsDatetime = false) ↔
          ∀ e ∈ entries, e.2.grouped.holds spellsDatetime = false := by
        constructor
        · intro h e he
          exact h (e.1, e.2.grouped) (hperm.mem_iff.2 (List.mem_map.2 ⟨e, he, rfl⟩))
        · intro h e he
          obtain ⟨e', he', rfl⟩ := List.mem_map.1 (hperm.mem_iff.1 he)
          exact h e' he'
      rw [hread, hholds]
      constructor
      · intro h
        exact ⟨rfl, fun e he => (ih e he (hentries e he)).1 (h e he)⟩
      · rintro ⟨-, h⟩ e he
        exact (ih e he (hentries e he)).2 (h e he)

end GuestDisks.Toml.Value

namespace GuestDisks.Unknowns

open Data Toml

/-! ## Unknown keys -/

variable {u : Unknowns}

theorem ofRest_eq_readEntries : ofRest = readEntries (Value.kept true) := rfl

/-- Unknown keys are among those that were left over, and their values are kept. -/
theorem mem_of_ofRest {ms : Members Value} (h : ofRest ms = .ok u) {e : String × Value} (he : e ∈ u.entries) :
    e.1 ∈ ms.map (·.1) ∧ e.2.IsKept := by
  rw [ofRest_eq_readEntries] at h
  obtain ⟨v, hv, hkept⟩ := exists_of_mem_readEntries h he
  exact ⟨List.mem_map.2 ⟨(e.1, v), hv, rfl⟩, Value.isKept_of_kept hkept⟩

/-- The unknown keys are read back where they are written. -/
def AreReadBack (u : Unknowns) : Prop := ReadsBack ofRest u.table u

/-- **Unknown keys are read back exactly if no table in their values is written like a date-time.** -/
theorem areReadBack_iff (hk : ∀ e ∈ u.entries, e.2.IsKept)
    (hn : ∀ e ∈ u.entries, e.2.holds Value.isNaN = false) :
    u.AreReadBack ↔ ∀ e ∈ u.entries, e.2.grouped.holds Value.spellsDatetime = false := by
  rw [AreReadBack, ofRest_eq_readEntries, readsBack_entries_iff Value.grouped (.refl u.table)]
  exact forall₂_congr fun e he => Value.readsBack_grouped_iff (hk e he) (hn e he)

end GuestDisks.Unknowns
