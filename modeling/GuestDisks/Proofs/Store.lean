import GuestDisks.Configuration
import GuestDisks.Proofs.AddressSpace

/-!
# A configuration is a map from slots

What a slot holds is what was last put there (`get_set`), and a configuration is determined by what
its slots hold (`entries_eq`, `beq_iff`), so everything about a configuration is said through `get`.
-/

namespace GuestDisks

namespace Variant

/-- The two markers are no devices, and all else is one. -/
theorem isEmpty_iff {v : Variant} : v.isEmpty = true ↔ v = .delete ∨ v = .unchanged := by
  cases v <;> simp [isEmpty]

theorem isCloudInit_iff {v : Variant} : v.isCloudInit = true ↔ ∃ storage, v = .cloudInit storage := by
  cases v <;> simp [isCloudInit]

end Variant

namespace Configuration

variable {c d : Configuration} {s t : Slot}

theorem get_eq_getElem (c : Configuration) (s : Slot) (h : s.ordinal < slotCount) :
    c.get s = c.variants[s.ordinal] := rfl

@[simp] theorem get_empty (s : Slot) : empty.get s = .delete := by
  rw [get_eq_getElem _ s s.ordinal_lt]
  exact Vector.getElem_replicate _

/-- A slot holds what was stored there, and no other slot is changed. -/
theorem get_set (c : Configuration) (s t : Slot) (v : Variant) :
    (c.set s v).get t = if s = t then v else c.get t := by
  rw [get_eq_getElem _ t t.ordinal_lt, get_eq_getElem c t t.ordinal_lt]
  unfold set
  by_cases h : s = t
  · subst h; rw [if_pos rfl, Vector.getElem_set_self]
  · rw [if_neg h, Vector.getElem_set_ne]
    exact fun he => h (Slot.ordinal_injective he)

@[simp] theorem get_set_self (c : Configuration) (s : Slot) (v : Variant) : (c.set s v).get s = v := by
  rw [get_set, if_pos rfl]

theorem get_set_ne (c : Configuration) (v : Variant) (h : s ≠ t) : (c.set s v).get t = c.get t := by
  rw [get_set, if_neg h]

/-- What was in the slot is taken out, and the rest is as after putting the variant there. -/
theorem replace_eq (c : Configuration) (s : Slot) (v : Variant) : c.replace s v = (c.get s, c.set s v) := rfl

/-- Variants are stored in slot order. -/
theorem toList_variants (c : Configuration) : c.variants.toList = Slot.all.map c.get := by
  apply List.ext_getElem
  · rw [Vector.length_toList, List.length_map, Slot.length_all]
  · intro i h1 h2
    rw [List.length_map] at h2
    rw [Vector.getElem_toList, List.getElem_map, get_eq_getElem c _ (Slot.ordinal_lt _)]
    simp only [Slot.ordinal_getElem_all i h2]

/-- **The entries are the slots, in order, with what they hold.** -/
theorem entries_eq (c : Configuration) : c.entries = Slot.all.map fun s => (s, c.get s) := by
  unfold entries
  rw [toList_variants, List.zip_map_right, List.zip_eq_zipWith, List.zipWith_self, List.map_map]; rfl

/-- A configuration is determined by what its slots hold. -/
theorem ext_get (h : ∀ s, c.get s = d.get s) : c = d := by
  obtain ⟨vs⟩ := c
  obtain ⟨ws⟩ := d
  have hlist : vs.toList = ws.toList := by
    have hvs := toList_variants ⟨vs⟩
    rwa [funext h, ← toList_variants] at hvs
  exact congrArg _ (Vector.toList_inj.1 hlist)

/-- **The last mention of a slot counts.** -/
theorem get_ofList (es : List (Slot × Variant)) (s : Slot) :
    (ofList es).get s = (es.reverse.lookup s).getD .delete := by
  suffices h : ∀ c : Configuration, (es.foldl (fun c e => c.set e.1 e.2) c).get s =
      (es.reverse.lookup s).getD (c.get s) by
    unfold ofList
    rw [h, get_empty]
  induction es with
  | nil => intro c; rfl
  | cons e es ih =>
    intro c
    rw [List.foldl_cons, ih, get_set, List.reverse_cons, List.lookup_append]
    cases es.reverse.lookup s with
    | some v => rfl
    | none =>
      rw [Option.none_or, Option.getD_none, List.lookup_cons, List.lookup_nil]
      by_cases h : e.1 = s
      · simp [h]
      · have hne : (s == e.1) = false := by simpa using Ne.symm h
        rw [if_neg h, hne]; rfl

theorem all_beq_iff (l : List Slot) (f g : Slot → Variant) :
    (l.map f == l.map g) = true ↔ ∀ s ∈ l, (f s == g s) = true := by
  induction l with
  | nil => simp
  | cons s l ih => rw [List.map_cons, List.map_cons, List.cons_beq_cons, Bool.and_eq_true, ih]; simp

/-- **Configurations agree when their slots do.** -/
theorem beq_iff : (c == d) = true ↔ ∀ s, (c.get s == d.get s) = true := by
  have h : (c == d) = (c.variants == d.variants) := rfl
  rw [h, ← Vector.toList_beq_toList, toList_variants, toList_variants, all_beq_iff]
  exact ⟨fun h s => h s (Slot.mem_all s), fun h s _ => h s⟩

/-- There are no devices exactly if every slot holds a marker. -/
theorem devices_eq_nil_iff : c.devices = [] ↔ ∀ s, (c.get s).isEmpty = true := by
  unfold devices
  rw [entries_eq, List.filter_eq_nil_iff]
  simp [Slot.mem_all]

/-- A cloud-init drive is marked exactly if some slot holds one. -/
theorem hasCloudInit_iff : c.hasCloudInit = true ↔ ∃ s storage, c.get s = .cloudInit storage := by
  unfold hasCloudInit
  rw [← Vector.any_toList, toList_variants, List.any_map, List.any_eq_true]
  constructor
  · rintro ⟨s, -, hs⟩
    exact ⟨s, Variant.isCloudInit_iff.1 hs⟩
  · rintro ⟨s, hs⟩
    exact ⟨s, Slot.mem_all s, Variant.isCloudInit_iff.2 hs⟩

end Configuration

end GuestDisks
