import GuestDisks.Data.KeyMap
import Mathlib.Data.List.Nodup
import Mathlib.Data.List.Perm.Basic

/-!
# Maps by their entries

A map's keys ascend, so no key has two values: a value is under a key exactly when the two form an
entry (`get?_eq_some_iff`). A map made from a list has, under a key, the last value listed there
(`get?_ofList`); where the keys are different, their order in the list is lost (`ofList_perm`).

Members of a table whose keys are different are looked up by membership too
(`lookup_of_mem_of_nodup`), also where only some of them are shown (`lookup_filter`).
-/

namespace GuestDisks.Data

variable {α : Type} {key k : String} {a b : α} {es : List (String × α)}

/-- What a look-up finds is an entry. -/
theorem mem_of_lookup {κ : Type} [BEq κ] [LawfulBEq κ] {es : List (κ × α)} {k : κ}
    (h : es.lookup k = some a) : (k, a) ∈ es := by
  obtain ⟨l₁, l₂, rfl, -⟩ := List.lookup_eq_some_iff.1 h
  exact List.mem_append_right _ (List.mem_cons_self ..)

/-- A look-up finds the one value that a key has. -/
theorem lookup_of_mem {κ : Type} [BEq κ] [LawfulBEq κ] {es : List (κ × α)} {k : κ}
    (h : (k, a) ∈ es) (hu : ∀ b, (k, b) ∈ es → b = a) : es.lookup k = some a := by
  cases hl : es.lookup k with
  | none => exact absurd (List.lookup_eq_none_iff.1 hl _ h) (by simp)
  | some b => rw [hu b (mem_of_lookup hl)]

theorem value_unique_of_nodup (hn : (es.map (·.1)).Nodup) (ha : (k, a) ∈ es) (hb : (k, b) ∈ es) : b = a := by
  have h := List.inj_on_of_nodup_map hn hb ha rfl
  exact congrArg Prod.snd h

theorem lookup_of_mem_of_nodup (hn : (es.map (·.1)).Nodup) (h : (k, a) ∈ es) : es.lookup k = some a :=
  lookup_of_mem h fun _ hb => value_unique_of_nodup hn h hb

theorem ne_of_lookup_eq_none {e : String × α} (h : es.lookup k = none) (he : e ∈ es) : e.1 ≠ k := by
  intro hk
  have hmiss := List.lookup_eq_none_iff.1 h e he
  rw [hk] at hmiss
  simp at hmiss

/-- A key that does not occur has no value. -/
theorem lookup_eq_none_of_not_mem (h : k ∉ es.map (·.1)) : es.lookup k = none := by
  rw [List.lookup_eq_none_iff]
  intro e he
  have hne : k ≠ e.1 := fun hk => h (hk ▸ List.mem_map_of_mem he)
  simpa using hne

/-- Where entries are shown by a rule, a key finds its value if the rule shows it. -/
theorem lookup_filter (p : String × α → Bool) (hn : (es.map (·.1)).Nodup) (h : (k, a) ∈ es) :
    (es.filter p).lookup k = if p (k, a) then some a else none := by
  have hnf : ((es.filter p).map (·.1)).Nodup := hn.sublist (List.filter_sublist.map _)
  split
  · rename_i hp
    exact lookup_of_mem_of_nodup hnf (List.mem_filter.2 ⟨h, hp⟩)
  · rename_i hp
    apply lookup_eq_none_of_not_mem
    intro hk
    obtain ⟨⟨k, b⟩, he, rfl⟩ := List.mem_map.1 hk
    obtain ⟨hm, hb⟩ := List.mem_filter.1 he
    rw [value_unique_of_nodup hn h hm] at hb
    exact hp hb

/-- The order of entries does not matter where no key is listed twice. -/
theorem lookup_of_perm {l : List (String × α)} (hn : (es.map (·.1)).Nodup) (h : l.Perm es) (k : String) :
    l.lookup k = es.lookup k := by
  have hnl : (l.map (·.1)).Nodup := (h.map (·.1)).nodup_iff.2 hn
  cases hl : es.lookup k with
  | none =>
    rw [List.lookup_eq_none_iff] at hl ⊢
    exact fun e he => hl e (h.mem_iff.1 he)
  | some a => exact lookup_of_mem_of_nodup hnl (h.mem_iff.2 (mem_of_lookup hl))

/-- Ascending keys are different. -/
theorem Ascending.nodup_keys (h : Ascending es) : (es.map (·.1)).Nodup :=
  (List.pairwise_map.2 h).imp String.ne_of_lt

theorem Ascending.value_unique (h : Ascending es) (ha : (k, a) ∈ es) (hb : (k, b) ∈ es) : b = a :=
  value_unique_of_nodup h.nodup_keys ha hb

theorem lookup_cons_eq_ite (e : String × α) (es : List (String × α)) (k : String) :
    (e :: es).lookup k = if k = e.1 then some e.2 else es.lookup k := by
  obtain ⟨l, b⟩ := e
  rw [List.lookup_cons]
  by_cases h : k = l
  · simp [h]
  · rw [if_neg h, beq_false_of_ne h]

/-- An entry that is inserted is found under its key, and other keys keep theirs. -/
theorem lookup_insertEntry (key : String) (a : α) (es : List (String × α)) (k : String) :
    (insertEntry key a es).lookup k = if k = key then some a else es.lookup k := by
  induction es with
  | nil => exact lookup_cons_eq_ite ..
  | cons e es ih =>
    obtain ⟨l, b⟩ := e
    simp only [insertEntry]
    split
    · rw [lookup_cons_eq_ite]
    · next hge =>
      split
      · next hlt =>
        rw [lookup_cons_eq_ite, ih, lookup_cons_eq_ite]
        by_cases hk : k = key
        · rw [if_pos hk, if_pos hk, if_neg fun h => String.ne_of_lt hlt (h.symm.trans hk)]
        · rw [if_neg hk, if_neg hk]
      · next hle =>
        have heq : key = l := String.le_antisymm (String.not_lt.1 hle) (String.not_lt.1 hge)
        rw [lookup_cons_eq_ite, lookup_cons_eq_ite, heq]
        by_cases hk : k = l
        · rw [if_pos hk, if_pos hk]
        · rw [if_neg hk, if_neg hk, if_neg hk]

namespace KeyMap

variable {m : KeyMap α}

/-- **A value is under a key exactly when the two form an entry.** -/
theorem get?_eq_some_iff : m.get? k = some a ↔ (k, a) ∈ m.entries :=
  ⟨mem_of_lookup, fun h => lookup_of_mem h fun _ hb => m.ascending.value_unique h hb⟩

/-- An insertion into a map changes the value of its own key and no other. -/
theorem get?_insert (m : KeyMap α) (key : String) (a : α) (k : String) :
    (m.insert key a).get? k = if k = key then some a else m.get? k :=
  lookup_insertEntry ..

/-- **The last value listed for a key counts.** -/
theorem get?_ofList (es : List (String × α)) (k : String) :
    (ofList es).get? k = es.reverse.lookup k := by
  suffices h : ∀ m : KeyMap α, (es.foldl (fun m e => m.insert e.1 e.2) m).get? k =
      (es.reverse.lookup k).or (m.get? k) by
    unfold ofList
    rw [h, show ({} : KeyMap α).get? k = none from rfl, Option.or_none]
  induction es with
  | nil => intro m; rfl
  | cons e es ih =>
    intro m
    rw [List.foldl_cons, ih, get?_insert, List.reverse_cons, List.lookup_append, Option.or_assoc]
    rw [lookup_cons_eq_ite]
    by_cases hk : k = e.1 <;> simp [hk]

/-- The keys of a map ascend. -/
theorem pairwise_keys (m : KeyMap α) : m.keys.Pairwise (· < ·) := List.pairwise_map.2 m.ascending

theorem nodup_keys (m : KeyMap α) : m.keys.Nodup := m.ascending.nodup_keys

/-- A map is determined by its look-ups. -/
theorem ext_get? {n : KeyMap α} (h : ∀ k, m.get? k = n.get? k) : m = n := by
  have hmem : ∀ e, e ∈ m.entries ↔ e ∈ n.entries := by
    rintro ⟨k, a⟩
    rw [← get?_eq_some_iff, ← get?_eq_some_iff, h]
  have hperm : m.entries.Perm n.entries :=
    (List.perm_ext_iff_of_nodup m.nodup_keys.of_map n.nodup_keys.of_map).2 hmem
  have hentries : m.entries = n.entries :=
    hperm.eq_of_pairwise (fun _ _ _ _ hab hba => absurd hba (String.lt_asymm hab)) m.ascending n.ascending
  cases m
  cases n
  cases hentries
  rfl

/-- The order of a list with different keys does not matter to its map. -/
theorem ofList_perm {l : List (String × α)} (hn : (es.map (·.1)).Nodup) (h : l.Perm es) :
    ofList l = ofList es := by
  apply ext_get?
  intro k
  have hrev : l.reverse.Perm es.reverse := (l.reverse_perm.trans h).trans es.reverse_perm.symm
  have hnr : (es.reverse.map (·.1)).Nodup := (es.reverse_perm.map (·.1)).nodup_iff.2 hn
  rw [get?_ofList, get?_ofList, lookup_of_perm hnr hrev]

/-- A map is rebuilt from its own entries. -/
theorem ofList_entries (m : KeyMap α) : ofList m.entries = m := by
  apply ext_get?
  intro k
  rw [get?_ofList]
  exact lookup_of_perm m.nodup_keys m.entries.reverse_perm k


theorem ofList_concat (es : List (String × α)) (e : String × α) :
    ofList (es ++ [e]) = (ofList es).insert e.1 e.2 := by
  unfold ofList
  rw [List.foldl_append]; rfl

end KeyMap

end GuestDisks.Data
