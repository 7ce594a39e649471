import GuestDisks.Proofs.Numeral
import GuestDisks.Slot.Name
import Mathlib.Data.List.Nodup

/-!
# The address space and its names

* `map_ordinal_all`: the list of all slots has every slot once, in order.
* `pairwise_all`: that order is by bus and then by index, as `Precedes` says it.
* `ofName_eq_ok_iff`: a text names a slot only if it is the slot's own name, so no slot has two
  names and no name stands for two slots.
-/

namespace GuestDisks.Slot

/-- The slots are listed by their places, without a gap. -/
theorem map_ordinal_all : all.map ordinal = List.range slotCount := by decide

/-- No two slots have one place. -/
theorem ordinal_injective : Function.Injective ordinal := by
  rintro ⟨b, i, hi⟩ ⟨b', j, hj⟩ h
  obtain rfl : b = b' := by
    cases b <;> cases b' <;> simp only [ordinal, Bus.firstOrdinal, Bus.slotCount] at h hi hj <;>
      first | rfl | omega
  obtain rfl : i = j := Nat.add_left_cancel h
  rfl

theorem length_all : all.length = slotCount := by
  rw [← List.length_map (f := ordinal), map_ordinal_all, List.length_range]

theorem ordinal_getElem_all (i : Nat) (h : i < all.length) : all[i].ordinal = i := by
  have h' : i < (all.map ordinal).length := by rwa [List.length_map]
  rw [← List.getElem_map ordinal (h := h')]
  simp only [map_ordinal_all, List.getElem_range]

theorem nodup_all : all.Nodup := by
  have : (all.map ordinal).Nodup := by rw [map_ordinal_all]; exact List.nodup_range
  exact List.Nodup.of_map _ this

/-- Every slot is listed. -/
theorem mem_all (s : Slot) : s ∈ all := by
  -- the slot at the place of `s` is `s`, as places tell slots apart
  have h : s.ordinal < all.length := by rw [length_all]; exact s.ordinal_lt
  have : all[s.ordinal] = s := ordinal_injective (ordinal_getElem_all _ h)
  rw [← this]; exact List.getElem_mem h

/-! ## The order of slots -/

/-- The order of the address space: by bus, and on one bus by index. -/
def Precedes (s t : Slot) : Prop :=
  Bus.all.idxOf s.bus < Bus.all.idxOf t.bus ∨ (s.bus = t.bus ∧ s.index < t.index)

/-- **Slots precede each other as their places do.** -/
theorem precedes_iff {s t : Slot} : s.Precedes t ↔ s.ordinal < t.ordinal := by
  obtain ⟨b, i, hi⟩ := s
  obtain ⟨b', j, hj⟩ := t
  unfold Precedes ordinal
  -- no index reaches beyond the slots of its bus
  cases b <;> cases b' <;>
    simp [Bus.all, Bus.firstOrdinal, Bus.slotCount] at hi hj ⊢ <;> omega

theorem ne_of_precedes {s t : Slot} (h : s.Precedes t) : s ≠ t := by
  rintro rfl
  exact Nat.lt_irrefl _ (precedes_iff.1 h)

/-- The slots are listed in the order of the address space. -/
theorem pairwise_all : all.Pairwise Precedes := by
  have hplaces : (all.map ordinal).Pairwise (· < ·) := by
    rw [map_ordinal_all]
    exact List.pairwise_lt_range
  have hslots := List.pairwise_map.1 hplaces
  exact hslots.imp precedes_iff.2

/-! ## Names -/

theorem index_lt (s : Slot) : s.index < 256 := by
  obtain ⟨b, i, h⟩ := s
  cases b <;> simp only [Bus.slotCount] at h ⊢ <;> omega

/-- A name is the label of the bus and then the index in decimal digits. -/
theorem toList_name (s : Slot) : s.name.toList = s.bus.label.toList ++ Decimal.digits s.index := by
  unfold name; rw [String.toList_append, Decimal.toList_ofNat]

theorem busOf?_append (b : Bus) (cs : List Char) : busOf? (b.label.toList ++ cs) = some (b, cs) := by
  cases b <;> rfl

theorem append_of_isPrefixOf? {cs ds rest : List Char} (h : cs.isPrefixOf? ds = some rest) :
    ds = cs ++ rest := by
  induction cs generalizing ds with
  | nil => simpa [List.isPrefixOf?] using h
  | cons c cs ih =>
    cases ds with
    | nil => simp [List.isPrefixOf?] at h
    | cons d ds =>
      simp only [List.isPrefixOf?, Option.ite_none_right_eq_some, beq_iff_eq] at h
      obtain ⟨rfl, h⟩ := h
      rw [ih h, List.cons_append]

/-- A bus is told by its label in front, and the rest of the text is left. -/
theorem eq_of_busOf? {cs ds : List Char} {b : Bus} (h : busOf? cs = some (b, ds)) :
    cs = b.label.toList ++ ds := by
  obtain ⟨b', -, hb⟩ := List.exists_of_findSome?_eq_some h
  rw [Option.map_eq_some_iff] at hb
  obtain ⟨rest, hp, he⟩ := hb
  cases he
  exact append_of_isPrefixOf? hp

/-- A numeral has digits only, and the first is zero only if there is no other. -/
theorem isNumeral_iff {cs : List Char} : isNumeral cs = true ↔
    cs ≠ [] ∧ (∀ c ∈ cs, Decimal.isDigit c = true) ∧ (cs.length = 1 ∨ cs.head? ≠ some '0') := by
  simp [isNumeral, and_assoc]

theorem isNumeral_digits (n : Nat) : isNumeral (Decimal.digits n) = true := by
  refine isNumeral_iff.2 ⟨Decimal.digits_ne_nil n, fun c => Decimal.isDigit_of_mem_digits, ?_⟩
  by_cases h : n = 0
  · left; rw [Decimal.digits_of_lt (by omega)]; rfl
  · right
    obtain ⟨d, h0, h10, hd⟩ := Decimal.head?_digits h
    rw [hd]
    intro he
    have := congrArg Char.toNat (Option.some.inj he)
    rw [Decimal.digitChar_toNat h10] at this
    simp at this; omega

/-- An index is accepted exactly if a slot of the bus has it. -/
theorem ofIndex_eq_ok_iff {b : Bus} {n : Nat} {s : Slot} :
    ofIndex b n = .ok s ↔ s.bus = b ∧ s.index = n := by
  obtain ⟨b', i, hi⟩ := s
  unfold ofIndex ofIndex?
  by_cases h : n < b.slotCount
  · simp [h, eq_comm]
  · simp only [h, dite_false, reduceCtorEq, false_iff, not_and]
    rintro rfl rfl; exact h hi

/-- A slot's own name is read as the slot. -/
theorem ofName_name (s : Slot) : ofName s.name = .ok s := by
  unfold ofName
  rw [toList_name, busOf?_append]
  simp only [isNumeral_digits, Decimal.value_digits, s.index_lt, and_self, if_true]
  exact ofIndex_eq_ok_iff.2 ⟨rfl, rfl⟩

/-- **A text names a slot only if it is the slot's name.** -/
theorem ofName_eq_ok_iff {n : String} {s : Slot} : ofName n = .ok s ↔ n = s.name := by
  refine ⟨fun h => ?_, fun h => h ▸ ofName_name s⟩
  unfold ofName at h
  cases hb : busOf? n.toList with
  | none => simp [hb] at h
  | some p =>
    obtain ⟨b, ds⟩ := p
    simp only [hb] at h
    split at h
    · -- the digits are those in which the index is written in a name
      rename_i hn
      obtain ⟨hne, hd, h0⟩ := isNumeral_iff.1 hn.1
      obtain ⟨rfl, hi⟩ := ofIndex_eq_ok_iff.1 h
      apply String.toList_injective
      rw [toList_name, eq_of_busOf? hb, hi, Decimal.digits_value hd hne h0]
    · cases h

/-- **No two slots have one name.** -/
theorem name_injective : Function.Injective name := fun s t h => by
  have := ofName_name s
  rw [h, ofName_name] at this
  exact (Except.ok.inj this).symm

/-- Only the slots of a bus are named there, each by its own name. -/
theorem ofNameOn_eq_ok_iff {b : Bus} {n : String} {s : Slot} :
    ofNameOn b n = .ok s ↔ s.bus = b ∧ n = s.name := by
  unfold ofNameOn
  cases h : ofName n with
  | error f =>
    simp only [bind, Except.bind, reduceCtorEq, false_iff, not_and]
    rintro - rfl
    rw [ofName_name] at h; cases h
  | ok t =>
    obtain rfl := ofName_eq_ok_iff.1 h
    simp only [bind, Except.bind]
    split
    · rename_i hb
      simp only [pure, Except.pure, Except.ok.injEq]
      exact ⟨fun h => h ▸ ⟨hb, rfl⟩, fun h => name_injective h.2⟩
    · rename_i hb
      simp only [reduceCtorEq, false_iff, not_and]
      rintro rfl he
      exact hb (congrArg bus (name_injective he))

end GuestDisks.Slot
