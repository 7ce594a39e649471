import GuestDisks.Document.Decoded
import GuestDisks.Proofs.TableMeaning

/-!
# What reading a document gives

Reading a document is carrying out its steps (`Document.assign_eq_run`). Whatever the document says,

* every slot then holds something well formed on its bus (`slots_wellFormed`),
* no error is reported exactly when the document is **honoured**: its slots hold the devices that it
  asks for, those to be left alone are unchanged, and only the others are deleted
  (`hasErrors_eq_false_iff`).
-/

namespace GuestDisks

open Assignment

/-! ## Every slot is well formed -/

/-- The steps that a document asks for. -/
def Document.steps (d : Document) : List Step :=
  match d.surface with
  | .list => DiskList.steps 0 d.disk
  | .expanded => (d.disks.getD {}).misplacedSteps ++ Slot.all.flatMap (d.disks.getD {}).stepsOf

/-- **Reading a document is carrying out its steps.** -/
theorem Document.assign_eq_run (d : Document) : d.assign.1 = Assignment.empty.run d.steps := by
  unfold assign steps
  cases d.surface
  · exact DiskList.decode_eq_run _
  · exact BusTables.decode_eq_run _

/-- Whatever is read from a document is well formed. -/
theorem Document.wellFormed_decode (d : Document) (s : Slot) :
    (d.decode.config.get s).WellFormedOn s.bus := by
  have h : d.decode.config = d.assign.1.config := rfl
  rw [h, assign_eq_run]
  exact wellFormed_run _ s

/-- **Whatever was read or carried out, every slot holds something well formed on its bus.** -/
theorem slots_wellFormed :
    (∀ (d : Document) (s : Slot), (d.decode.config.get s).WellFormedOn s.bus) ∧
      ∀ (steps : List Step) (s : Slot), ((Assignment.empty.run steps).config.get s).WellFormedOn s.bus :=
  ⟨Document.wellFormed_decode, wellFormed_run⟩

/-! ## Reports without errors -/

namespace Report

theorem hasErrors_append (r r' : Report) :
    hasErrors (r ++ r') = false ↔ hasErrors r = false ∧ hasErrors r' = false := by
  unfold hasErrors
  rw [List.any_append, Bool.or_eq_false_iff]

/-- There is no error in a report exactly if there is none in its parts. -/
theorem hasErrors_flatMap {α : Type} (xs : List α) (f : α → Report) :
    hasErrors (xs.flatMap f) = false ↔ ∀ x ∈ xs, hasErrors (f x) = false := by
  unfold hasErrors
  rw [List.any_flatMap, List.any_eq_false]
  simp

theorem hasErrors_ofFindings (place : String) (fs : List Finding) :
    hasErrors (.ofFindings place fs) = false ↔ ∀ f ∈ fs, f.isError = false := by
  unfold hasErrors Report.ofFindings Diagnostic.isError
  rw [List.any_map, List.any_eq_false]
  simp

/-- Warnings about unknown keys are no errors. -/
theorem hasErrors_warnings (place : String) (keys : List String) (fs : List Finding) :
    hasErrors (.ofFindings place (keys.map (fun key => .warning (.unknownField key)) ++ fs)) = false ↔
      ∀ f ∈ fs, f.isError = false := by
  have hw : ∀ f ∈ keys.map (fun key => Finding.warning (.unknownField key)), f.isError = false := by
    intro f hf
    obtain ⟨key, -, rfl⟩ := List.mem_map.1 hf
    rfl
  rw [hasErrors_ofFindings, List.forall_mem_append]
  exact and_iff_right hw

end Report

/-- A configuration holds what a request asks for: the variant that is built from the request, which
is a device of the kind asked for. -/
def Configuration.Holds (c : Configuration) (r : Request) : Prop :=
  r.build.value = some (c.get r.slot) ∧ (c.get r.slot).IsOf r.kind r.passthrough

/-- It is enough that the variant is what is built, as that is of the kind asked for. -/
theorem Configuration.holds_iff {c : Configuration} {r : Request} :
    c.Holds r ↔ r.build.value = some (c.get r.slot) :=
  ⟨And.left, fun h => ⟨h, Request.build_isOf h⟩⟩

/-! ## Lists that are honoured -/

/-- **A list is honoured**: its entries name slots, each another one, and the slots hold the devices
that the entries ask for; every other slot is deleted. -/
structure DiskList.HonouredBy (c : Configuration) (es : List Entry) : Prop where
  held : ∀ e ∈ es, ∃ s kind, Slot.ofName e.slot = .ok s ∧ Kind.ofName e.kind = .ok kind ∧
    c.Holds ⟨s, kind, e.passthrough, e.fields⟩
  distinct : es.Pairwise fun e f => Slot.ofName e.slot ≠ Slot.ofName f.slot
  rest : ∀ s, (∀ e ∈ es, Slot.ofName e.slot ≠ .ok s) → c.get s = .delete

namespace Entry

/-- An entry is accepted after others if it names a slot that they do not, and what it wants there
can be built. -/
def IsAcceptedAfter (before : List Entry) (e : Entry) : Prop :=
  ∃ s, Slot.ofName e.slot = .ok s ∧ before.any (·.names s) = false ∧ (e.wanted s).value.isSome = true

/-- No error is reported about an entry exactly if it is accepted. -/
theorem hasErrors_reports (before : List Entry) (position : Nat) (e : Entry) :
    (e.reports before position).hasErrors = false ↔ e.IsAcceptedAfter before := by
  unfold reports IsAcceptedAfter
  cases Slot.ofName e.slot with
  | error fault => simp [Report.hasErrors_ofFindings, Finding.isError]
  | ok s =>
    simp only [Report.hasErrors_warnings, Except.ok.injEq, exists_eq_left', (e.lawful_wanted s).isSome_iff]
    cases before.any (·.names s) <;> simp [Finding.isError]

/-- An entry is accepted after others and one more if it names a slot that this one does not. -/
theorem isAcceptedAfter_append {before : List Entry} {e f : Entry} :
    f.IsAcceptedAfter (before ++ [e]) ↔
      f.IsAcceptedAfter before ∧ Slot.ofName e.slot ≠ Slot.ofName f.slot := by
  unfold IsAcceptedAfter
  cases Slot.ofName f.slot with
  | error fault => simp
  | ok s =>
    have hn : e.names s = false ↔ Slot.ofName e.slot ≠ .ok s := by
      rw [← Bool.not_eq_true, names_eq_true_iff]
    simp only [Except.ok.injEq, exists_eq_left', List.any_append, List.any_cons, List.any_nil,
      Bool.or_false, Bool.or_eq_false_iff, hn]
    tauto

/-- What an entry wants is what it asks for, if its kind is known. -/
theorem value_wanted_eq_some_iff {s : Slot} {e : Entry} {v : Variant} : (e.wanted s).value = some v ↔
    ∃ kind, Kind.ofName e.kind = .ok kind ∧
      (Request.build ⟨s, kind, e.passthrough, e.fields⟩).value = some v := by
  unfold wanted
  cases Kind.ofName e.kind <;> simp [Checked.problem]

end Entry

namespace DiskList

/-- No error is reported about entries exactly if each is accepted and no two name one slot. -/
theorem hasErrors_reportsFrom (before es : List Entry) : (reportsFrom before es).hasErrors = false ↔
    (∀ e ∈ es, e.IsAcceptedAfter before) ∧
      es.Pairwise fun e f => Slot.ofName e.slot ≠ Slot.ofName f.slot := by
  induction es generalizing before with
  | nil => simp [reportsFrom, Report.hasErrors]
  | cons e es ih =>
    have hlater : (∀ f ∈ es, f.IsAcceptedAfter (before ++ [e])) ↔
        (∀ f ∈ es, f.IsAcceptedAfter before) ∧ ∀ f ∈ es, Slot.ofName e.slot ≠ Slot.ofName f.slot := by
      simp only [Entry.isAcceptedAfter_append]
      exact forall₂_and
    rw [reportsFrom_cons, Report.hasErrors_append, Entry.hasErrors_reports, ih, hlater,
      List.forall_mem_cons, List.pairwise_cons]
    tauto

/-- Where no two entries name one slot, a slot means what the entry that names it wants. -/
theorem meaning_of_mem {es : List Entry} {e : Entry} {s : Slot}
    (hd : es.Pairwise fun e f => Slot.ofName e.slot ≠ Slot.ofName f.slot) (he : e ∈ es)
    (hs : Slot.ofName e.slot = .ok s) : meaning es s = (e.wanted s).value.getD .delete := by
  have hf : es.find? (·.names s) = some e := by
    induction es with
    | nil => cases he
    | cons f es ih =>
      obtain ⟨hf, hd⟩ := List.pairwise_cons.1 hd
      rcases List.mem_cons.1 he with rfl | he
      · rw [List.find?_cons_of_pos (Entry.names_eq_true_iff.2 hs)]
      · have hn : ¬f.names s = true := by
          rw [Entry.names_eq_true_iff, ← hs]; exact hf e he
        rw [List.find?_cons_of_neg hn, ih hd he]
  unfold meaning
  rw [hf, Option.bind_some]

/-- A slot that no entry names is deleted. -/
theorem meaning_of_not_named {es : List Entry} {s : Slot}
    (h : ∀ e ∈ es, Slot.ofName e.slot ≠ .ok s) : meaning es s = .delete := by
  have hf : es.find? (·.names s) = none := by
    rw [List.find?_eq_none]
    intro e he
    rw [Entry.names_eq_true_iff]; exact h e he
  unfold meaning
  rw [hf]; rfl

/-- **A list is read without errors exactly when it is honoured.** -/
theorem hasErrors_decode (es : List Entry) :
    (decode es).1.report.hasErrors = false ↔ HonouredBy (decode es).1.config es := by
  have hr : reports es = reportsFrom [] es := rfl
  rw [report_decode, hr, hasErrors_reportsFrom]
  constructor
  · rintro ⟨hacc, hd⟩
    refine ⟨fun e he => ?_, hd, fun s hs => by rw [get_decode, meaning_of_not_named hs]⟩
    obtain ⟨s, hs, -, hv⟩ := hacc e he
    obtain ⟨v, hv⟩ := Option.isSome_iff_exists.1 hv
    obtain ⟨kind, hk, hb⟩ := Entry.value_wanted_eq_some_iff.1 hv
    refine ⟨s, kind, hs, hk, Configuration.holds_iff.2 ?_⟩
    rw [get_decode, meaning_of_mem hd he hs, hv]
    exact hb
  · rintro ⟨hheld, hd, -⟩
    refine ⟨fun e he => ?_, hd⟩
    obtain ⟨s, kind, hs, hk, hh⟩ := hheld e he
    have hv := Entry.value_wanted_eq_some_iff.2 ⟨kind, hk, hh.1⟩
    exact ⟨s, hs, rfl, by rw [hv]; rfl⟩

end DiskList

/-! ## Tables that are honoured -/

/-- **Tables are honoured**: their keys name slots of their bus, and the slots hold the devices that
the tables ask for or are unchanged where a table says so; every other slot is deleted. -/
structure BusTables.HonouredBy (c : Configuration) (t : BusTables) : Prop where
  resolved : ∀ bus, ∀ key ∈ (t.onBus bus).keys, ∃ s : Slot, s.bus = bus ∧ s.name = key
  held : ∀ s table, t.tableOf s = some table → ∀ r, table.AsksFor s r → c.Holds r
  ignored : ∀ s table, t.tableOf s = some table → table.ignore = true → c.get s = .unchanged
  rest : ∀ s, (∀ table, t.tableOf s = some table → table.count = 0 ∧ table.ignore = false) →
    c.get s = .delete

namespace SlotTable

/-- What a table wants is there exactly if no error is found. -/
theorem lawful_wanted {s : Slot} {t : SlotTable} {w : Checked Variant} (h : t.wanted s = some w) :
    Checked.Lawful (fun f => f.IsOfDevice ∨ f = .error .conflictingBlocks) w := by
  rw [wanted_eq] at h
  split at h <;> cases h
  · exact .pure _
  · exact ⟨(Request.build_lawful _).isSome_iff, fun f hf => .inl ((Request.build_lawful _).reports f hf)⟩
  · exact .problem (.inr rfl)

/-- **No error is reported about a table exactly when what it wants can be built.** -/
theorem hasErrors_reports (s : Slot) (t : SlotTable) : (t.reports s).hasErrors = false ↔
    ∀ w ∈ t.wanted s, w.value.isSome = true := by
  unfold reports
  rw [Report.hasErrors_warnings]
  cases h : t.wanted s with
  | none => simp
  | some w => simp [(lawful_wanted h).isSome_iff]

/-- What a table wants can be built exactly when the slot then holds what the table asks for. -/
theorem isSome_wanted_iff {c : Configuration} {s : Slot} {t : SlotTable}
    (hc : c.get s = ((t.wanted s).bind (·.value)).getD .delete) :
    (∀ w ∈ t.wanted s, w.value.isSome = true) ↔
      (∀ r, t.AsksFor s r → c.Holds r) ∧ (t.ignore = true → c.get s = .unchanged) := by
  revert hc
  simp only [asksFor_iff, wanted_eq, forall_exists_index, and_imp, forall_apply_eq_imp_iff₂]
  rcases t.devices with _ | ⟨d, _ | ⟨d', ds⟩⟩
  · cases t.ignore <;> intro hc
    · simp
    · simp [show c.get s = .unchanged from hc]
  · -- a sub-table is carried out unless the slot is to be ignored as well
    cases t.ignore <;> intro hc
    · have hd : c.get (d.on s).slot = (d.on s).build.value.getD .delete := hc
      simp only [Option.mem_some_iff, forall_eq', List.mem_singleton, forall_eq, Configuration.holds_iff, hd]
      cases (d.on s).build.value <;> simp
    · simp [show c.get s = .delete from hc, Checked.problem]
  · -- several sub-tables are rejected, and a deleted slot holds none of their devices
    intro hc
    have hd : ¬c.Holds (d.on s) := fun h => by
      have h2 := h.2
      rw [show c.get (d.on s).slot = .delete from hc] at h2
      exact h2
    simp [hd, Checked.problem]

end SlotTable

namespace BusTables

/-- A key is reported unless it is the name of a slot of its bus. -/
theorem hasErrors_stray (bus : Bus) (key : String) :
    (stray bus key).hasErrors = false ↔ ∃ s : Slot, s.bus = bus ∧ s.name = key := by
  unfold stray
  cases h : Slot.ofNameOn bus key with
  | ok s =>
    obtain ⟨hbus, hname⟩ := Slot.ofNameOn_eq_ok_iff.1 h
    exact iff_of_true rfl ⟨s, hbus, hname.symm⟩
  | error fault =>
    refine iff_of_false nofun ?_
    rintro ⟨s, hbus, hname⟩
    rw [Slot.ofNameOn_eq_ok_iff.2 ⟨hbus, hname.symm⟩] at h
    cases h

/-- **No key is misplaced exactly when every key is the name of a slot of its bus.** -/
theorem hasErrors_misplaced (t : BusTables) : t.misplaced.hasErrors = false ↔
    ∀ bus, ∀ key ∈ (t.onBus bus).keys, ∃ s : Slot, s.bus = bus ∧ s.name = key := by
  have hall : ∀ bus, bus ∈ Bus.all := fun bus => by cases bus <;> decide
  rw [misplaced_eq]
  simp only [Report.hasErrors_flatMap, hasErrors_stray, hall, forall_true_left]

/-- **Nothing is wrong with the table of a slot exactly when the slot holds what the table asks for**, and
is unchanged where the table says so. -/
theorem hasErrors_reportsOf (t : BusTables) (s : Slot) : (t.reportsOf s).hasErrors = false ↔
    ∀ table, t.tableOf s = some table → (∀ r, table.AsksFor s r → t.decode.1.config.Holds r) ∧
      (table.ignore = true → t.decode.1.config.get s = .unchanged) := by
  have hget := get_decode t s
  unfold reportsOf meaning at *
  cases ht : t.tableOf s with
  | none => simp [Report.hasErrors]
  | some table =>
    rw [ht] at hget
    rw [Option.elim_some, SlotTable.hasErrors_reports, SlotTable.isSome_wanted_iff hget]
    simp

/-- **Tables are read without errors exactly when they are honoured.** -/
theorem hasErrors_decode (t : BusTables) :
    t.decode.1.report.hasErrors = false ↔ HonouredBy t.decode.1.config t := by
  rw [report_decode]
  unfold reports
  rw [Report.hasErrors_append, Report.hasErrors_flatMap, hasErrors_misplaced]
  simp only [hasErrors_reportsOf]
  constructor
  · rintro ⟨hresolved, hslots⟩
    refine ⟨hresolved, fun s table ht => (hslots s (Slot.mem_all s) table ht).1,
      fun s table ht => (hslots s (Slot.mem_all s) table ht).2, fun s hs => ?_⟩
    rw [get_decode]
    unfold meaning
    cases ht : t.tableOf s with
    | none => rfl
    | some table =>
      obtain ⟨hc, hi⟩ := hs table ht
      rw [Option.bind_some, SlotTable.wanted_of_empty hc hi]; rfl
  · rintro ⟨hresolved, hheld, hignored, -⟩
    exact ⟨hresolved, fun s _ table ht => ⟨hheld s table ht, hignored s table ht⟩⟩

end BusTables

/-! ## Documents that are honoured -/

/-- A document is honoured if the surface that it uses is. -/
def Document.HonouredBy (c : Configuration) (d : Document) : Prop :=
  match d.surface with
  | .list => DiskList.HonouredBy c d.disk
  | .expanded => BusTables.HonouredBy c (d.disks.getD {})

/-- **No error is reported exactly when the document is honoured**, so nothing that it asks for is
lost, and no slot that it describes deleted, without an error. -/
theorem Document.hasErrors_eq_false_iff (d : Document) :
    d.decode.report.hasErrors = false ↔ d.HonouredBy d.decode.config := by
  have hr : d.decode.report = d.assign.1.report := rfl
  have hc : d.decode.config = d.assign.1.config := rfl
  rw [hr, hc]
  unfold assign HonouredBy
  cases d.surface
  · exact DiskList.hasErrors_decode _
  · exact BusTables.hasErrors_decode _

end GuestDisks
