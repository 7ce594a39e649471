/-!
# Maps from texts

A finite map whose keys are texts, kept in the order of its keys (`KeyMap`). That order is part of
the type, so two maps with the same entries are equal, and whatever goes through a map meets its
entries in one order only.
-/

namespace GuestDisks.Data

variable {α : Type}

/-- The keys of a list of entries ascend. -/
abbrev Ascending (es : List (String × α)) : Prop := es.Pairwise fun a b => a.1 < b.1

/-- Puts an entry where its key belongs, in place of an entry with that key. -/
def insertEntry (key : String) (a : α) : List (String × α) → List (String × α)
  | [] => [(key, a)]
  | (k, b) :: es =>
    if key < k then (key, a) :: (k, b) :: es
    else if k < key then (k, b) :: insertEntry key a es
    else (key, a) :: es

/-- What an insertion adds has the key inserted. -/
theorem key_of_mem_insertEntry {key : String} {a : α} {es : List (String × α)} {e : String × α}
    (h : e ∈ insertEntry key a es) : e.1 = key ∨ e ∈ es := by
  induction es with
  | nil => simp [insertEntry] at h; simp [h]
  | cons x es ih =>
    obtain ⟨k, b⟩ := x
    simp only [insertEntry] at h
    split at h
    · rcases List.mem_cons.1 h with rfl | h
      · exact .inl rfl
      · exact .inr h
    · split at h
      · rcases List.mem_cons.1 h with rfl | h
        · exact .inr (List.mem_cons_self ..)
        · exact (ih h).imp_right (List.mem_cons_of_mem _)
      · rcases List.mem_cons.1 h with rfl | h
        · exact .inl rfl
        · exact .inr (List.mem_cons_of_mem _ h)

/-- An insertion keeps the order of the keys. -/
theorem ascending_insertEntry (key : String) (a : α) {es : List (String × α)}
    (h : Ascending es) : Ascending (insertEntry key a es) := by
  induction es with
  | nil => simp [insertEntry, Ascending]
  | cons x es ih =>
    obtain ⟨k, b⟩ := x
    obtain ⟨hk, hes⟩ := List.pairwise_cons.1 h
    simp only [insertEntry]
    split
    · next hlt =>
      refine List.pairwise_cons.2 ⟨fun e he => ?_, h⟩
      rcases List.mem_cons.1 he with rfl | he
      · exact hlt
      · exact String.lt_trans hlt (hk e he)
    · next hge =>
      split
      · next hlt =>
        refine List.pairwise_cons.2 ⟨fun e he => ?_, ih hes⟩
        rcases key_of_mem_insertEntry he with heq | he
        · exact heq ▸ hlt
        · exact hk e he
      · next hle =>
        have heq : key = k := String.le_antisymm (String.not_lt.1 hle) (String.not_lt.1 hge)
        exact List.pairwise_cons.2 ⟨fun e he => heq ▸ hk e he, hes⟩

/-- A finite map from texts, in the order of its keys. -/
structure KeyMap (α : Type) where
  entries : List (String × α)
  ascending : Ascending entries
  deriving DecidableEq

namespace KeyMap

/-- The map without entries. -/
def empty : KeyMap α := ⟨[], .nil⟩

instance : EmptyCollection (KeyMap α) := ⟨empty⟩

instance [BEq α] : BEq (KeyMap α) := ⟨fun m n => m.entries == n.entries⟩

/-- Puts a value under a key. -/
def insert (m : KeyMap α) (key : String) (a : α) : KeyMap α :=
  ⟨insertEntry key a m.entries, ascending_insertEntry key a m.ascending⟩

/-- The map of the entries listed; the last one with a key counts. -/
def ofList (es : List (String × α)) : KeyMap α := es.foldl (fun m e => m.insert e.1 e.2) {}

/-- The value under a key. -/
def get? (m : KeyMap α) (key : String) : Option α := m.entries.lookup key

/-- The keys, ascending. -/
def keys (m : KeyMap α) : List String := m.entries.map (·.1)

end KeyMap

end GuestDisks.Data
