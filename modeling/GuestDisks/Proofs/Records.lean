import GuestDisks.Data.Record
import GuestDisks.Proofs.Maps
import Mathlib.Data.List.Forall2

/-!
# Reading records that were written

A record is written as a map in which no key stands twice. Reading it goes over the members once to
test them and then looks each field up, so what is to be known of a field is what its look-up gives.

* `RecordField.Fits`: a field fits the members if its look-up succeeds.
* `record_eq_ok`, `splitRecord_eq_ok`, `survey_eq_ok`: the members pass if every field fits.
-/

namespace GuestDisks.Data

variable {α β : Type}

/-! ## Fields that fit -/

/-- What follows a reading that succeeds. -/
theorem bind_eq_of_ok {γ : Type} {x : Except Fault β} {f : β → Except Fault γ} {b : β} {r : Except Fault γ}
    (h : x = .ok b) (hr : f b = r) : (x >>= f) = r := by
  rw [h]; exact hr

/-- A computation that succeeds goes through its steps. -/
theorem bind_eq_ok_iff {γ : Type} {x : Except Fault β} {f : β → Except Fault γ} {c : γ} :
    (x >>= f) = .ok c ↔ ∃ b, x = .ok b ∧ f b = .ok c := by
  cases x with
  | error fault =>
    constructor
    · intro h; cases h
    · rintro ⟨b, h, -⟩; cases h
  | ok b =>
    constructor
    · intro h; exact ⟨b, rfl, h⟩
    · rintro ⟨_, ⟨⟩, h⟩; exact h

/-- A field fits members if its value there, if there is one, passes the field's test, and there is one
if it is required. -/
structure RecordField.Fits (ms : Members α) (f : RecordField α) : Prop where
  check : ∀ v, ms.lookup f.key = some v → f.check v = .ok ()
  present : f.isRequired = true → (ms.lookup f.key).isSome = true

section

variable {ms : Members α} {key : String} {read : Reader α β} {default b : β}

/-- A member that is there is read. -/
theorem Members.orElse_of_lookup {v : α} (h : ms.lookup key = some v) : ms.orElse key read default = read v := by
  unfold orElse; rw [h]

/-- A member that is not there has its default. -/
theorem Members.orElse_of_none (h : ms.lookup key = none) : ms.orElse key read default = .ok default := by
  unfold orElse; rw [h]

theorem Members.required_of_lookup {v : α} (h : ms.lookup key = some v) : ms.required key read = read v := by
  unfold required; rw [h]

/-- A field fits if its member can be read or left out. -/
theorem RecordField.Fits.may (h : ms.orElse key read default = .ok b) :
    (RecordField.may key read).Fits ms where
  check v hv := by
    have hread : read v = .ok b := (Members.orElse_of_lookup hv).symm.trans h
    show (read v).map _ = _
    rw [hread]; rfl
  present := nofun

/-- A required field fits if its member can be read. -/
theorem RecordField.Fits.need (h : ms.required key read = .ok b) :
    (RecordField.need key read).Fits ms where
  check v hv := by
    have hread : read v = .ok b := (Members.required_of_lookup hv).symm.trans h
    show (read v).map _ = _
    rw [hread]; rfl
  present _ := by
    unfold Members.required at h
    show (ms.lookup key).isSome = true
    cases hv : ms.lookup key with
    | none => rw [hv] at h; cases h
    | some v => rfl

end

/-! ## Going over the members -/

variable {fields : List (RecordField α)} {ms : Members α}

/-- Members pass if the keys are different, every field fits, and the rest can be gone over. -/
theorem survey_eq_ok {other : α → Bool} (hn : (ms.map (·.1)).Nodup)
    (hfits : fields.Forall (·.Fits ms)) (hother : ∀ m ∈ ms, other m.2 = true) :
    survey fields other [] ms = .ok () := by
  rw [List.forall_iff_forall_mem] at hfits
  have hcheck : ∀ m ∈ ms, ∀ f ∈ fields, f.key = m.1 → f.check m.2 = .ok () := by
    rintro ⟨key, v⟩ hm f hf rfl
    exact (hfits f hf).check v (lookup_of_mem_of_nodup hn hm)
  clear hfits
  -- the keys met so far stay apart from those to come
  have hseen : ∀ m ∈ ms, m.1 ∉ ([] : List String) := fun _ _ => List.not_mem_nil
  generalize ([] : List String) = seen at hseen ⊢
  induction ms generalizing seen with
  | nil => rfl
  | cons m ms ih =>
    obtain ⟨key, v⟩ := m
    obtain ⟨hkey, hn⟩ := List.nodup_cons.1 hn
    obtain ⟨hs, hseen⟩ := List.forall_mem_cons.1 hseen
    obtain ⟨ho, hother⟩ := List.forall_mem_cons.1 hother
    obtain ⟨hc, hcheck⟩ := List.forall_mem_cons.1 hcheck
    unfold survey
    split
    · rw [if_pos ho]
      exact ih hn hother hcheck seen hseen
    · rename_i f hf
      have hfc : f.check v = .ok () := hc f (List.mem_of_find?_eq_some hf) (by simpa using List.find?_some hf)
      have hfresh : ∀ m ∈ ms, m.1 ∉ key :: seen := by
        intro m hm
        rw [List.mem_cons, not_or]
        exact ⟨fun h => hkey (h ▸ List.mem_map_of_mem (f := (·.1)) hm), hseen m hm⟩
      rw [if_neg (by simpa using hs), hfc]
      exact ih hn hother hcheck (key :: seen) hfresh

theorem complete_eq_ok (hfits : fields.Forall (·.Fits ms)) : complete fields ms = .ok () := by
  rw [List.forall_iff_forall_mem] at hfits
  have hnone : missing? fields ms = none := by
    unfold missing?
    rw [Option.map_eq_none_iff, List.find?_eq_none]
    intro f hf hmissing
    rw [Bool.and_eq_true, Option.isNone_iff_eq_none] at hmissing
    have hsome := (hfits f hf).present hmissing.1
    rw [hmissing.2] at hsome
    cases hsome
  unfold complete
  rw [hnone]

variable [Shaped α] (hn : (ms.map (·.1)).Nodup) (hfits : fields.Forall (·.Fits ms))

include hn hfits

/-- **A map of members that fit is a record.** -/
theorem record_eq_ok (what : String) (surplus : Surplus) (hother : ∀ m ∈ ms, skippable m.2 = true) :
    record what surplus fields (.map ms true) = .ok ms := by
  unfold record
  simp only [survey_eq_ok hn hfits hother, complete_eq_ok hfits]
  rfl

/-- So is one whose other members are left to other parts. -/
theorem splitRecord_eq_ok (what : String) (hother : ∀ m ∈ ms, readable m.2 = true) :
    splitRecord what fields (.map ms true) = .ok ms := by
  unfold splitRecord
  simp only [survey_eq_ok hn hfits hother, complete_eq_ok hfits]
  rfl

end GuestDisks.Data
