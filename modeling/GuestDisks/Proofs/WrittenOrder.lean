import GuestDisks.Proofs.DecodeLog
import GuestDisks.Proofs.Rendering

/-!
# The order of written documents

Whoever compares two written lists does so entry by entry, so the order of a list is part of what it
says. Names would not sort into that order: `scsi10` comes before `scsi2` as a text.

* `DiskList.encode_ascending`: a written list has an entry for each slot that holds a device, in the
  order of slots.
* `BusTables.encode_tables`: written slot tables are one for each slot, under its name on its bus.
* `DiskList.isEmpty_get_decode_iff`: of a list that was read, the slots that are written are those whose
  first entry was accepted.
* `written_in_order` puts these together, with the mark for cloud-init drives.
-/

namespace GuestDisks

open Assignment Data

/-! ## Lists -/

/-- An entry shows what a slot holds: it is the one for that device, and read by itself it asks for the
same device, with nothing to report, if that is well formed. -/
structure Entry.Shows (s : Slot) (v : Variant) (e : Entry) : Prop where
  name : e.slot = s.name
  written : Entry.ofVariant s v = some e
  back : v.WellFormedOn s.bus → e.wanted s = pure v

namespace Entry

variable {s : Slot} {v : Variant} {e : Entry}

/-- An entry is written for devices only. -/
theorem isSome_ofVariant (s : Slot) (v : Variant) : (ofVariant s v).isSome = !v.isEmpty := by
  cases v <;> rfl

/-- A written entry shows what its slot holds. -/
theorem shows_of_ofVariant (h : ofVariant s v = some e) : e.Shows s v where
  name := by cases v <;> cases h <;> rfl
  written := h
  back hv := by
    have hclaim : ∃ r, Request.ofVariant s v = some r ∧ e.wanted s = r.build := by
      cases v <;> cases h <;> exact ⟨_, rfl, rfl⟩
    obtain ⟨r, hr, hwanted⟩ := hclaim
    rw [hwanted, Request.build_ofVariant hr hv]

/-- An entry of type `cloudinit` is written for a cloud-init drive. -/
theorem kind_eq_cloudinit_iff (h : ofVariant s v = some e) :
    e.kind = "cloudinit" ↔ ∃ storage, v = .cloudInit storage := by
  cases v <;> cases h <;> simp [Kind.label]

end Entry

/-- What is picked from a list stands beside where it comes from. -/
theorem forall₂_filterMap {α β : Type} (f : α → Option β) (xs : List α) :
    List.Forall₂ (fun x y => f x = some y) (xs.filter fun x => (f x).isSome) (xs.filterMap f) := by
  induction xs with
  | nil => exact .nil
  | cons x xs ih =>
    rw [List.filter_cons, List.filterMap_cons]
    cases hx : f x with
    | none => exact ih
    | some y => exact .cons hx ih

namespace DiskList

/-- **A written list has one entry for each slot that holds a device**, in the order of slots. -/
theorem encode_ascending (c : Configuration) : ∃ slots : List Slot,
    slots.Pairwise Slot.Precedes ∧ (∀ s, s ∈ slots ↔ (c.get s).isEmpty = false) ∧
      List.Forall₂ (fun s e => e.Shows s (c.get s)) slots (encode c) := by
  refine ⟨Slot.all.filter fun s => (Entry.ofVariant s (c.get s)).isSome, Slot.pairwise_all.filter _, ?_, ?_⟩
  · intro s
    rw [List.mem_filter, Entry.isSome_ofVariant, Bool.not_eq_true']
    exact and_iff_right (Slot.mem_all s)
  · rw [encode_eq_filterMap]
    have hwritten := forall₂_filterMap (fun s => Entry.ofVariant s (c.get s)) Slot.all
    exact hwritten.imp fun _ _ h => Entry.shows_of_ofVariant h

/-- The order is that of the indices, which is not that of the names as texts. -/
example :
    let c := (Configuration.empty.set ⟨.scsi, 10, by decide⟩ (.cdrom .none)).set ⟨.scsi, 2, by decide⟩ (.cdrom .none)
    (encode c).map (·.slot) = ["scsi2", "scsi10"] ∧ "scsi10" < "scsi2" := by decide +kernel

/-- Entries that show slots are under their names. -/
theorem map_slot_of_shows {c : Configuration} {slots : List Slot} {es : List Entry}
    (h : List.Forall₂ (fun s e => e.Shows s (c.get s)) slots es) : es.map (·.slot) = slots.map Slot.name := by
  induction h with
  | nil => rfl
  | cons hshows _ ih => rw [List.map_cons, List.map_cons, hshows.name, ih]

/-- A slot is named in a written list exactly if it holds a device. -/
theorem name_mem_encode_iff {c : Configuration} {s : Slot} :
    s.name ∈ (encode c).map (·.slot) ↔ (c.get s).isEmpty = false := by
  obtain ⟨slots, -, hmem, hshows⟩ := encode_ascending c
  rw [map_slot_of_shows hshows, List.mem_map_of_injective Slot.name_injective, hmem]

theorem exists_cloudinit_iff {c : Configuration} :
    (∃ e ∈ encode c, e.kind = "cloudinit") ↔ ∃ s storage, c.get s = .cloudInit storage := by
  simp only [encode_eq_filterMap, List.mem_filterMap]
  constructor
  · rintro ⟨e, ⟨s, -, he⟩, hkind⟩
    exact ⟨s, (Entry.kind_eq_cloudinit_iff he).1 hkind⟩
  · rintro ⟨s, storage, hs⟩
    have hsome : (Entry.ofVariant s (c.get s)).isSome = true := by
      rw [Entry.isSome_ofVariant, hs]; rfl
    obtain ⟨e, he⟩ := Option.isSome_iff_exists.1 hsome
    exact ⟨e, ⟨s, Slot.mem_all s, he⟩, (Entry.kind_eq_cloudinit_iff he).2 ⟨storage, hs⟩⟩

/-! ## Lists that were read -/

/-- The first entry for a slot is accepted when its turn comes. -/
def Accepts (es : List Entry) (s : Slot) : Prop :=
  ∃ before e after, es = before ++ e :: after ∧ (∀ f ∈ before, Slot.ofName f.slot ≠ .ok s) ∧
    ∃ kind, (e.assign (assign .empty 0 before).1 before.length).2 = [.entry s kind true]

/-- What an entry is told when its turn comes. -/
theorem snd_assign_after (before : List Entry) (e : Entry) :
    (e.assign (assign .empty 0 before).1 before.length).2 = (e.event? before).toList := by
  refine Entry.snd_assign (fun s => ?_) before.length e
  rw [assign_eq_run, mem_claimed_run_empty, any_names, findSome?_steps, Option.isSome_map,
    List.isSome_find?]

theorem event?_eq_accepted_iff {before : List Entry} {e : Entry} {s : Slot} :
    (∃ kind, e.event? before = some (.entry s kind true)) ↔
      Slot.ofName e.slot = .ok s ∧ before.any (·.names s) = false ∧ (e.wanted s).value.isSome = true := by
  unfold Entry.event?
  cases hs : Slot.ofName e.slot with
  | error fault => simp
  | ok u =>
    cases hk : Kind.ofName e.kind with
    | error p =>
      have hnone : (e.wanted s).value = none := by
        unfold Entry.wanted
        rw [hk]; rfl
      simp [hnone]
    | ok kind =>
      simp only [Option.some.injEq, Event.entry.injEq, Except.ok.injEq, Bool.and_eq_true, Bool.not_eq_true']
      constructor
      · rintro ⟨_, rfl, -, h⟩
        exact ⟨rfl, h⟩
      · rintro ⟨rfl, h⟩
        exact ⟨kind, rfl, rfl, h⟩

/-- A slot is accepted by the first entry that names it, if that can be built. -/
theorem accepts_iff {es : List Entry} {s : Slot} : Accepts es s ↔
    ∃ before e after, es = before ++ e :: after ∧ before.any (·.names s) = false ∧ e.names s = true ∧
      (e.wanted s).value.isSome = true := by
  have hnames : ∀ before : List Entry,
      (∀ f ∈ before, Slot.ofName f.slot ≠ .ok s) ↔ before.any (·.names s) = false := by
    intro before
    simp [List.any_eq_false, Entry.names_eq_true_iff]
  have htold : ∀ (before : List Entry) (e : Entry),
      (∃ kind, (e.assign (assign .empty 0 before).1 before.length).2 = [.entry s kind true]) ↔
        ∃ kind, e.event? before = some (.entry s kind true) := by
    intro before e
    simp only [snd_assign_after, Option.toList_eq_singleton_iff]
  unfold Accepts
  simp only [hnames, htold, event?_eq_accepted_iff, Entry.names_eq_true_iff]
  constructor
  · rintro ⟨before, e, after, hes, hb, hs, -, hv⟩
    exact ⟨before, e, after, hes, hb, hs, hv⟩
  · rintro ⟨before, e, after, hes, hb, hs, hv⟩
    exact ⟨before, e, after, hes, hb, hs, hb, hv⟩

/-- **A slot holds a device if its first entry was accepted.** -/
theorem isEmpty_get_decode_iff {es : List Entry} {s : Slot} :
    ((decode es).1.config.get s).isEmpty = false ↔ Accepts es s := by
  rw [accepts_iff]
  constructor
  · intro h
    cases hfind : es.find? (·.names s) with
    | none =>
      rw [get_decode, meaning, hfind] at h
      cases h
    | some e =>
      obtain ⟨he, before, after, hes, hbefore⟩ := List.find?_eq_some_iff_append.1 hfind
      have hb : before.any (·.names s) = false := by
        rw [List.any_eq_false]
        intro f hf
        simpa using hbefore f hf
      refine ⟨before, e, after, hes, hb, he, ?_⟩
      rw [Entry.isSome_wanted_eq, ← get_decode_append_cons hb he after, ← hes, h]; rfl
  · rintro ⟨before, e, after, rfl, hb, he, hv⟩
    rw [Entry.isSome_wanted_eq, Bool.not_eq_true'] at hv
    rw [get_decode_append_cons hb he after, hv]

end DiskList

/-! ## Slot tables -/

namespace SlotTable

/-- No written slot table is to be ignored. -/
theorem ignore_ofVariant (v : Variant) : (ofVariant v).ignore = false := by
  cases v <;> rfl

/-- A table is written with one sub-table for a device, and without any for a marker. -/
theorem count_ofVariant (v : Variant) : (ofVariant v).count = if v.isEmpty then 0 else 1 := by
  cases v <;> rfl

/-- A sub-table for a cloud-init drive is written for one. -/
theorem cloudInit_ofVariant_iff {v : Variant} :
    (ofVariant v).cloudInit.isSome = true ↔ ∃ storage, v = .cloudInit storage := by
  cases v <;> simp [ofVariant]

end SlotTable

namespace BusTables

/-- The tables of all buses are those under the keys of each. -/
theorem mem_tables_iff {t : BusTables} {bus : Bus} {key : String} {table : SlotTable} :
    (bus, key, table) ∈ t.tables ↔ (t.onBus bus).get? key = some table := by
  have hall : bus ∈ Bus.all := by cases bus <;> decide
  unfold tables
  rw [KeyMap.get?_eq_some_iff, List.mem_flatMap]
  constructor
  · rintro ⟨b, -, h⟩
    obtain ⟨e, he, heq⟩ := List.mem_map.1 h
    cases heq
    exact he
  · intro h
    exact ⟨bus, hall, List.mem_map.2 ⟨(key, table), h, rfl⟩⟩

/-- **A table is written for each slot**, under the slot's name on its bus, and no other. -/
theorem encode_tables (c : Configuration) :
    (encode c).tables.Perm (Slot.all.map fun s => (s.bus, s.name, SlotTable.ofVariant (c.get s))) := by
  have hwritten : (Slot.all.map fun s => (s.bus, s.name, SlotTable.ofVariant (c.get s))).Nodup := by
    refine Slot.nodup_all.map fun s u h => Slot.name_injective ?_
    exact congrArg (·.2.1) h
  refine (List.perm_ext_iff_of_nodup (encode c).nodup_map_tables.of_map hwritten).2 ?_
  rintro ⟨bus, key, table⟩
  rw [mem_tables_iff, encode_eq_ofSlots, get?_onBus_ofSlots, List.mem_map]
  constructor
  · rintro ⟨s, rfl, rfl, ⟨⟩⟩
    exact ⟨s, Slot.mem_all s, rfl⟩
  · rintro ⟨s, -, ⟨⟩⟩
    exact ⟨s, rfl, rfl, rfl⟩

theorem exists_cloudinit_iff {c : Configuration} :
    (∃ e ∈ (encode c).tables, e.2.2.cloudInit.isSome = true) ↔ ∃ s storage, c.get s = .cloudInit storage := by
  constructor
  · rintro ⟨e, he, hsome⟩
    obtain ⟨s, -, rfl⟩ := List.mem_map.1 ((encode_tables c).mem_iff.1 he)
    exact ⟨s, SlotTable.cloudInit_ofVariant_iff.1 hsome⟩
  · rintro ⟨s, hs⟩
    refine ⟨(s.bus, s.name, SlotTable.ofVariant (c.get s)), ?_, SlotTable.cloudInit_ofVariant_iff.2 hs⟩
    exact (encode_tables c).mem_iff.2 (List.mem_map.2 ⟨s, Slot.mem_all s, rfl⟩)

end BusTables

/-! ## Documents -/

/-- A cloud-init drive is shown on a surface of a document. -/
def Document.ShowsCloudInit (d : Document) : Surface → Prop
  | .list => ∃ e ∈ d.disk, e.kind = "cloudinit"
  | .expanded => ∃ t, d.disks = some t ∧ ∃ e ∈ t.tables, e.2.2.cloudInit.isSome = true

/-- **A cloud-init drive is marked exactly if the written document shows one.** -/
theorem Document.cloudInitPresent_iff (surface : Surface) (c : Configuration) :
    (encode surface c).cloudInitPresent = true ↔ (encode surface c).output.ShowsCloudInit surface := by
  have hpresent : (encode surface c).cloudInitPresent = c.hasCloudInit := rfl
  rw [hpresent, Configuration.hasCloudInit_iff]
  cases surface with
  | list => exact DiskList.exists_cloudinit_iff.symm
  | expanded =>
    rw [← BusTables.exists_cloudinit_iff]
    constructor
    · intro h
      exact ⟨BusTables.encode c, rfl, h⟩
    · rintro ⟨t, ⟨⟩, h⟩
      exact h

/-- **Each device is written once, in the order of slots.** The entries of a written list are those of
the slots that hold a device, ascending, each under the name of its slot and showing what the slot
holds. Of written slot tables there is one for each slot, under its name on its bus; none is to be
ignored, and it has a sub-table, and no more than one, if the slot holds a device. After reading a list
the slots written are those whose first entry was accepted. A cloud-init drive is marked if the document
shows one. -/
theorem written_in_order :
    (∀ c : Configuration, ∃ slots : List Slot,
      slots.Pairwise Slot.Precedes ∧ (∀ s, s ∈ slots ↔ (c.get s).isEmpty = false) ∧
      (DiskList.encode c).map (·.slot) = slots.map Slot.name ∧ ((DiskList.encode c).map (·.slot)).Nodup ∧
      List.Forall₂ (fun s e => e.Shows s (c.get s)) slots (DiskList.encode c)) ∧
    (∀ c : Configuration, ∃ table : Slot → SlotTable,
      (BusTables.encode c).tables.Perm (Slot.all.map fun s => (s.bus, s.name, table s)) ∧
      ∀ s, (table s).ignore = false ∧ (table s).count ≤ 1 ∧
        (0 < (table s).count ↔ (c.get s).isEmpty = false)) ∧
    (∀ es s, s.name ∈ (DiskList.encode (DiskList.decode es).1.config).map (·.slot) ↔
      DiskList.Accepts es s) ∧
    ∀ surface c, (Document.encode surface c).cloudInitPresent = true ↔
      (Document.encode surface c).output.ShowsCloudInit surface := by
  refine ⟨fun c => ?lists, fun c => ?tables, fun es s => ?read, Document.cloudInitPresent_iff⟩
  case lists =>
    obtain ⟨slots, horder, hmem, hshows⟩ := DiskList.encode_ascending c
    have hnames := DiskList.map_slot_of_shows hshows
    have hnodup : slots.Nodup := horder.imp fun {s t} hst => Slot.ne_of_precedes hst
    refine ⟨slots, horder, hmem, hnames, ?_, hshows⟩
    rw [hnames]
    exact hnodup.map Slot.name_injective
  case tables =>
    refine ⟨fun s => SlotTable.ofVariant (c.get s), BusTables.encode_tables c, fun s => ?_⟩
    have hcount := SlotTable.count_ofVariant (c.get s)
    refine ⟨SlotTable.ignore_ofVariant _, ?_, ?_⟩
    · rw [hcount]
      split <;> omega
    · rw [hcount]
      cases (c.get s).isEmpty <;> simp
  case read => rw [DiskList.name_mem_encode_iff, DiskList.isEmpty_get_decode_iff]

end GuestDisks
