import GuestDisks.Proofs.AddressSpace

/-!
# What is wrong with a name

A name that stands for no slot has one of three faults (`SlotFault.IsOf`), told by its beginning and by
what follows the label of the bus there.

* `busOf?_eq_some_iff`, `busOf?_eq_none_iff`: a name is split at the one label that begins it.
* `ofName_numeral`, `ofName_eq_noIndex`: what follows the label is the numeral of an index up to 255, which
  the bus has or has not, or it is no index (`IsNoIndex`).
* `ofName_exact`: each slot has one name, and each other text has one fault, with which it is refused.
-/

namespace GuestDisks

/-- A text is no index: it is empty, a character of it is no digit, a zero stands before further
characters, or it is the numeral of a number above 255. -/
def IsNoIndex (rest : String) : Prop :=
  rest = "" ∨ (∃ c ∈ rest.toList, Decimal.isDigit c = false) ∨
    (∃ d ds, rest.toList = '0' :: d :: ds) ∨ ∃ n, 255 < n ∧ rest = Decimal.ofNat n

/-- A fault is that of a name. -/
inductive SlotFault.IsOf (name : String) : SlotFault → Prop
  | unknownBus (h : ∀ bus : Bus, ¬bus.label.toList <+: name.toList) : IsOf name (.unknownBus name)
  | outOfRange {bus : Bus} {n : Nat} (hname : name = bus.label ++ Decimal.ofNat n)
    (hbus : bus.slotCount ≤ n) (hmax : n ≤ 255) : IsOf name (.outOfRange bus n)
  | noIndex {bus : Bus} {rest : String} (hname : name = bus.label ++ rest) (h : IsNoIndex rest) :
    IsOf name (.noIndex name)

namespace Slot

variable {name rest : String} {bus : Bus} {n : Nat} {fault : SlotFault}

/-! ## The bus -/

/-- No label begins another, so a name is split in one way at most. -/
theorem busOf?_eq_some_iff {cs ds : List Char} :
    busOf? cs = some (bus, ds) ↔ cs = bus.label.toList ++ ds := by
  constructor
  · exact eq_of_busOf?
  · rintro rfl; exact busOf?_append bus ds

theorem busOf?_eq_none_iff {cs : List Char} :
    busOf? cs = none ↔ ∀ bus : Bus, ¬bus.label.toList <+: cs := by
  constructor
  · rintro hnone bus ⟨ds, hcs⟩
    rw [busOf?_eq_some_iff.2 hcs.symm] at hnone
    cases hnone
  · intro hlabels
    cases hsplit : busOf? cs with
    | none => rfl
    | some p => exact absurd ⟨p.2, (eq_of_busOf? hsplit).symm⟩ (hlabels p.1)

/-! ## The index -/

/-- The numerals are those of the numbers. -/
theorem isNumeral_iff_ofNat : isNumeral rest.toList = true ↔ ∃ n, rest = Decimal.ofNat n := by
  constructor
  · intro h
    obtain ⟨hne, hdigits, hzero⟩ := isNumeral_iff.1 h
    refine ⟨Decimal.value rest.toList, ?_⟩
    rw [← String.toList_inj, Decimal.toList_ofNat, Decimal.digits_value hdigits hne hzero]
  · rintro ⟨n, rfl⟩
    rw [Decimal.toList_ofNat]
    exact isNumeral_digits n

/-- What is no numeral is empty, has a character that is no digit, or has a zero in front. -/
theorem isNumeral_eq_false_iff {cs : List Char} : isNumeral cs = false ↔
    cs = [] ∨ (∃ c ∈ cs, Decimal.isDigit c = false) ∨ ∃ d ds, cs = '0' :: d :: ds := by
  have hzero : ¬(cs.length = 1 ∨ cs.head? ≠ some '0') ↔ ∃ d ds, cs = '0' :: d :: ds := by
    rcases cs with _ | ⟨c, _ | ⟨d, ds⟩⟩ <;> simp
  rw [← Bool.not_eq_true, isNumeral_iff, not_and_or, not_and_or, not_not, hzero]
  simp only [not_forall, exists_prop, Bool.not_eq_true]

/-- A text is no index if it is no numeral or that of a number above 255. -/
theorem isNoIndex_iff :
    IsNoIndex rest ↔ isNumeral rest.toList = false ∨ ∃ n, 255 < n ∧ rest = Decimal.ofNat n := by
  unfold IsNoIndex
  rw [isNumeral_eq_false_iff, String.toList_eq_nil_iff, or_assoc, or_assoc]

/-- A name that ends in the numeral of a number names the slot with this index, if the bus has it. -/
theorem ofName_numeral (bus : Bus) (n : Nat) : ofName (bus.label ++ Decimal.ofNat n) =
    if n ≤ 255 then ofIndex bus n else .error (.noIndex (bus.label ++ Decimal.ofNat n)) := by
  unfold ofName
  rw [String.toList_append, busOf?_append, Decimal.toList_ofNat]
  simp only [isNumeral_digits, Decimal.value_digits, true_and, Nat.lt_succ_iff]

/-- A name that ends in no index is refused. -/
theorem ofName_eq_noIndex (bus : Bus) (h : IsNoIndex rest) :
    ofName (bus.label ++ rest) = .error (.noIndex (bus.label ++ rest)) := by
  rcases isNoIndex_iff.1 h with hnumeral | ⟨n, hn, rfl⟩
  · unfold ofName
    rw [String.toList_append, busOf?_append]
    simp only [hnumeral, Bool.false_eq_true, false_and, if_false]
  · rw [ofName_numeral, if_neg (Nat.not_le.2 hn)]

theorem ofIndex_eq_error_iff : ofIndex bus n = .error fault ↔
    bus.slotCount ≤ n ∧ fault = .outOfRange bus n := by
  unfold ofIndex ofIndex?
  by_cases h : n < bus.slotCount
  · simp [h, Nat.not_le.2 h]
  · simp [h, eq_comm, Nat.not_lt.1 h]

/-! ## Main result -/

/-- A name is refused with a fault of it, and with no other. -/
theorem ofName_eq_error_iff : ofName name = .error fault ↔ fault.IsOf name := by
  constructor
  · intro h
    cases hsplit : busOf? name.toList with
    | none =>
      unfold ofName at h
      rw [hsplit] at h
      cases h
      exact .unknownBus (busOf?_eq_none_iff.1 hsplit)
    | some p =>
      obtain ⟨bus, ds⟩ := p
      have hname : name = bus.label ++ .ofList ds := by
        rw [← String.toList_inj, busOf?_eq_some_iff.1 hsplit]; simp
      by_cases hindex : IsNoIndex (.ofList ds)
      · rw [hname, ofName_eq_noIndex bus hindex, ← hname] at h
        cases h
        exact .noIndex hname hindex
      · -- what is left is the numeral of an index up to 255, so the bus has no such index
        rw [isNoIndex_iff, not_or, Bool.not_eq_false, isNumeral_iff_ofNat] at hindex
        obtain ⟨⟨n, hn⟩, hmax⟩ := hindex
        have hle : n ≤ 255 := Nat.le_of_not_lt fun hlt => hmax ⟨n, hlt, hn⟩
        rw [hname, hn, ofName_numeral, if_pos hle, ofIndex_eq_error_iff] at h
        obtain ⟨hbus, rfl⟩ := h
        exact .outOfRange (hn ▸ hname) hbus hle
  · intro h
    cases h with
    | unknownBus hlabels =>
      unfold ofName
      rw [busOf?_eq_none_iff.2 hlabels]
    | outOfRange hname hbus hmax =>
      rw [hname, ofName_numeral, if_pos hmax]
      exact ofIndex_eq_error_iff.2 ⟨hbus, rfl⟩
    | noIndex hname hrest =>
      rw [hname]
      exact ofName_eq_noIndex _ hrest

/-- **Every text is the name of a slot or has one fault.** Each slot has one name, which is its own, and a
text that is none is refused with its fault. -/
theorem ofName_exact :
    (∀ s : Slot, ∃! name, ofName name = .ok s) ∧
    (∀ (name : String) (s : Slot), ofName name = .ok s ↔ name = s.name) ∧
    ∀ (name : String) (fault : SlotFault), ofName name = .error fault ↔ fault.IsOf name := by
  refine ⟨fun s => ⟨s.name, ofName_name s, ?_⟩, fun _ _ => ofName_eq_ok_iff, fun _ _ => ofName_eq_error_iff⟩
  intro name h
  exact ofName_eq_ok_iff.1 h

/-- An index beyond 255 is none at all, and not one out of range. -/
example : ofName "virtio255" = .error (.outOfRange .virtio 255) ∧
    ofName "virtio256" = .error (.noIndex "virtio256") := by decide

end Slot

end GuestDisks
