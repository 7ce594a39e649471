import GuestDisks.Proofs.Decoding

/-!
# Slot tables are read one by one

Keys are ordered as texts and slots by their places, and a key may be any text at all. Still no table
gets in the way of another: two keys never stand for one slot (`nodup_located`), so the tables taken in
slot order are the located ones, each once (`inSlotOrder_perm`), and no slot is ever taken when its
table comes up.

`decode_tablewise` says what follows for each slot and for the report: a slot is unchanged, holds a
device or is deleted, as its own table says; keys that name no slot are reported first.
-/

namespace GuestDisks

open Data

/-- The slot of an event that tells what became of a slot table. -/
def Event.tableSlot? : Event → Option Slot
  | .slotTable s _ => some s
  | _ => none

/-! ## Names on a bus -/

namespace Slot

/-- A name is refused on a bus because it is that of a slot elsewhere, or of none. -/
theorem ofNameOn_eq_error_iff {bus : Bus} {key : String} {fault : SlotFault} :
    ofNameOn bus key = .error fault ↔
      (∃ s, ofName key = .ok s ∧ s.bus ≠ bus ∧ fault = .wrongBus s bus) ∨ ofName key = .error fault := by
  unfold ofNameOn
  cases ofName key with
  | error f => simp [bind, Except.bind]
  | ok s =>
    simp only [bind, Except.bind, Except.ok.injEq, exists_eq_left', reduceCtorEq, or_false]
    split
    · rename_i hb
      simp [hb, pure, Except.pure]
    · rename_i hb
      simp [hb, eq_comm]

/-- **No two keys stand for one slot**, on whichever buses. -/
theorem eq_of_ofNameOn {bus bus' : Bus} {key key' : String} {s : Slot} (h : ofNameOn bus key = .ok s)
    (h' : ofNameOn bus' key' = .ok s) : bus = bus' ∧ key = key' := by
  obtain ⟨rfl, rfl⟩ := ofNameOn_eq_ok_iff.1 h
  obtain ⟨rfl, rfl⟩ := ofNameOn_eq_ok_iff.1 h'
  exact ⟨rfl, rfl⟩

end Slot

/-! ## Tables -/

namespace SlotTable

/-- Whether a table asks for what does not go together: several devices, or a device in a slot that is
to be ignored. -/
def conflicts (t : SlotTable) : Bool := decide (2 ≤ t.count) || (t.ignore && decide (0 < t.count))

/-- What a table wants, case by case. -/
theorem wanted_cases (s : Slot) (t : SlotTable) :
    (t.devices = [] ∧ t.ignore = false ∧ t.wanted s = none) ∨
    (t.devices = [] ∧ t.ignore = true ∧ t.wanted s = some (pure .unchanged)) ∨
    (∃ d, t.devices = [d] ∧ t.ignore = false ∧ t.wanted s = some (d.on s).build) ∨
    (t.devices ≠ [] ∧ t.conflicts = true ∧ t.wanted s = some (.problem .conflictingBlocks)) := by
  unfold conflicts
  rw [← length_devices, wanted_eq]
  rcases t.devices with _ | ⟨d, _ | ⟨d', ds⟩⟩ <;> cases t.ignore <;> simp

theorem conflicts_of_single {t : SlotTable} {d : BlockRequest} (hd : t.devices = [d])
    (hi : t.ignore = false) : t.conflicts = false := by
  simp [conflicts, count_of_single hd, hi]

theorem conflicts_of_nil {t : SlotTable} (hd : t.devices = []) : t.conflicts = false := by
  simp [conflicts, devices_eq_nil_iff.1 hd]

/-- The findings about a table are about its device, its keys or its sub-tables. -/
theorem finding_of_mem_reports {s : Slot} {t : SlotTable} {d : Diagnostic} (h : d ∈ t.reports s) :
    (∃ key, d.finding = .warning (.unknownField key)) ∨ d.finding.IsOfDevice ∨
      d.finding = .error .conflictingBlocks := by
  unfold reports Report.ofFindings at h
  obtain ⟨f, hf, rfl⟩ := List.mem_map.1 h
  rcases List.mem_append.1 hf with hf | hf
  · obtain ⟨key, -, rfl⟩ := List.mem_map.1 hf
    exact .inl ⟨key, rfl⟩
  · cases hw : t.wanted s with
    | none => rw [hw] at hf; cases hf
    | some w =>
      rw [hw] at hf
      exact .inr ((lawful_wanted hw).reports f hf)

/-- A table is reported to ask for what does not go together once, if it does. -/
theorem filter_conflicting (s : Slot) (t : SlotTable) :
    (t.reports s).filter (fun d => d.finding = .error .conflictingBlocks) =
      if t.conflicts then [⟨s.name, .error .conflictingBlocks⟩] else [] := by
  have hkeys : (t.noted.map fun key => Finding.warning (.unknownField key)).filter
      (fun f => f = .error .conflictingBlocks) = [] := by
    simp
  unfold reports
  rw [Report.filter_ofFindings, List.filter_append, hkeys, List.nil_append]
  rcases wanted_cases s t with ⟨hd, -, hw⟩ | ⟨hd, -, hw⟩ | ⟨d, hd, hi, hw⟩ | ⟨-, hc, hw⟩
  · rw [hw, conflicts_of_nil hd]; rfl
  · rw [hw, conflicts_of_nil hd]; rfl
  · -- what is wrong with a device is never that there are several
    have hbuild : (d.on s).build.findings.filter (fun f => f = .error .conflictingBlocks) = [] := by
      rw [List.filter_eq_nil_iff]
      intro f hf
      rw [decide_eq_true_eq]
      rintro rfl
      exact (Request.build_lawful _).reports _ hf
    rw [hw, conflicts_of_single hd hi, Option.elim_some, hbuild]; rfl
  · rw [hw, hc]; rfl

end SlotTable

namespace BusTables

/-! ## Each table once -/

/-- The keys of all buses. -/
theorem map_tables (t : BusTables) : t.tables.map (fun e => (e.1, e.2.1)) =
    Bus.all.flatMap fun bus => (t.onBus bus).keys.map (Prod.mk bus) := by
  unfold tables KeyMap.keys
  simp only [List.map_flatMap, List.map_map]
  rfl

/-- No bus has a key twice. -/
theorem nodup_map_tables (t : BusTables) : (t.tables.map fun e => (e.1, e.2.1)).Nodup := by
  rw [map_tables, List.nodup_flatMap]
  constructor
  · intro bus _
    exact (KeyMap.nodup_keys _).map fun _ _ h => (Prod.mk.inj h).2
  · have hall : Bus.all.Nodup := by decide
    refine hall.imp fun {bus bus'} hne => ?_
    refine List.disjoint_left.2 ?_
    rintro ⟨b, key⟩ hb hb'
    obtain ⟨_, -, h⟩ := List.mem_map.1 hb
    obtain ⟨_, -, h'⟩ := List.mem_map.1 hb'
    cases h; cases h'
    exact hne rfl

/-- **Located tables stand for different slots.** -/
theorem nodup_located (t : BusTables) : (t.located.map (·.1)).Nodup := by
  have hslots : t.located.map (·.1) =
      (t.tables.map fun e => (e.1, e.2.1)).filterMap fun k => (Slot.ofNameOn k.1 k.2).toOption := by
    unfold located
    rw [List.map_filterMap, List.filterMap_map]
    simp [Function.comp_def]
  have hok : ∀ (k : Bus × String) s, s ∈ (Slot.ofNameOn k.1 k.2).toOption →
      Slot.ofNameOn k.1 k.2 = .ok s := by
    intro k s h
    cases hk : Slot.ofNameOn k.1 k.2 with
    | error fault => rw [hk] at h; cases h
    | ok u => rw [hk] at h; cases h; rfl
  rw [hslots]
  refine t.nodup_map_tables.filterMap fun k k' s hs hs' => ?_
  obtain ⟨hb, hk⟩ := Slot.eq_of_ofNameOn (hok k s hs) (hok k' s hs')
  exact Prod.ext hb hk

/-- A slot has its turn exactly if it has a table. -/
theorem map_inSlotOrder (t : BusTables) :
    t.inSlotOrder.map (·.1) = Slot.all.filter fun s => (t.tableOf s).isSome := by
  rw [inSlotOrder_eq, List.map_filterMap]
  induction Slot.all with
  | nil => rfl
  | cons s slots ih =>
    rw [List.filterMap_cons, List.filter_cons, ih]
    cases t.tableOf s <;> rfl

/-- A slot has its turn with its own table. -/
theorem mem_inSlotOrder (t : BusTables) (s : Slot) (table : SlotTable) :
    (s, table) ∈ t.inSlotOrder ↔ t.tableOf s = some table := by
  rw [inSlotOrder_eq]
  simp [List.mem_filterMap, Slot.mem_all]

/-- **The tables taken in slot order are the located ones**, each once. -/
theorem inSlotOrder_perm (t : BusTables) : t.inSlotOrder.Perm t.located := by
  have horder : t.inSlotOrder.Nodup := by
    refine List.Nodup.of_map (·.1) ?_
    rw [map_inSlotOrder]
    exact Slot.nodup_all.filter _
  refine (List.perm_ext_iff_of_nodup horder t.nodup_located.of_map).2 fun ⟨s, table⟩ => ?_
  rw [mem_inSlotOrder, mem_located]

/-- Each table that is taken is told once. -/
theorem tableSlot?_assign (a : Assignment) (ts : List (Slot × SlotTable)) :
    (assign a ts).2.map Event.tableSlot? = ts.map fun e => some e.1 := by
  induction ts generalizing a with
  | nil => rfl
  | cons e ts ih => rw [List.map_cons, ← ih (e.2.assign a e.1).1]; rfl

/-! ## What slots hold -/

/-- The table of a slot says that the slot is to stay as it is, and asks for no device. -/
def Ignores (t : BusTables) (s : Slot) : Prop :=
  ∃ table, t.tableOf s = some table ∧ table.ignore = true ∧ table.count = 0

/-- The table of a slot has one sub-table, and asks by it for a device that can be built and is `v`. -/
def Builds (t : BusTables) (s : Slot) (v : Variant) : Prop :=
  ∃ table r, t.tableOf s = some table ∧ table.count = 1 ∧ table.AsksFor s r ∧ table.ignore = false ∧
    r.build.value = some v

variable {t : BusTables} {s : Slot} {v : Variant}

theorem get_of_ignores (h : t.Ignores s) : t.decode.1.config.get s = .unchanged := by
  obtain ⟨table, ht, hi, hc⟩ := h
  rw [get_decode, meaning, ht, Option.bind_some, SlotTable.wanted_of_ignored hc hi]; rfl

/-- A slot holds the device that its table asks for, if it can be built. -/
theorem get_of_builds (h : t.Builds s v) : t.decode.1.config.get s = v ∧ v.isEmpty = false := by
  obtain ⟨table, r, ht, hc, hr, hi, hv⟩ := h
  refine ⟨?_, (Request.build_isOf hv).isEmpty⟩
  rw [get_decode, meaning, ht, Option.bind_some, SlotTable.wanted_of_single hc hr hi, Option.bind_some, hv]
  rfl

/-- A slot is deleted, ignored or given the device that its table asks for. -/
theorem get_cases (t : BusTables) (s : Slot) :
    t.decode.1.config.get s = .delete ∨ t.Ignores s ∨ ∃ v, t.Builds s v := by
  rw [get_decode, meaning]
  cases ht : t.tableOf s with
  | none => exact .inl rfl
  | some table =>
    rcases SlotTable.wanted_cases s table with ⟨-, -, hw⟩ | ⟨hd, hi, -⟩ | ⟨d, hd, hi, hw⟩ | ⟨-, -, hw⟩
    · left; rw [Option.bind_some, hw]; rfl
    · exact .inr (.inl ⟨table, ht, hi, SlotTable.devices_eq_nil_iff.1 hd⟩)
    · cases hv : (d.on s).build.value with
      | none => left; rw [Option.bind_some, hw, Option.bind_some, hv]; rfl
      | some v =>
        have hr : table.AsksFor s (d.on s) := (SlotTable.asksFor_of_single hd).2 rfl
        exact .inr (.inr ⟨v, table, d.on s, ht, SlotTable.count_of_single hd, hr, hi, hv⟩)
    · left; rw [Option.bind_some, hw]; rfl

/-- A slot is unchanged exactly if its own table says so. -/
theorem get_eq_unchanged_iff : t.decode.1.config.get s = .unchanged ↔ t.Ignores s := by
  refine ⟨fun h => ?_, get_of_ignores⟩
  rcases t.get_cases s with hd | hi | ⟨v, hb⟩
  · rw [hd] at h; cases h
  · exact hi
  · obtain ⟨hg, hv⟩ := get_of_builds hb
    rw [← hg, h] at hv; cases hv

/-- A slot holds a device exactly if its own table asks for it. -/
theorem get_eq_device_iff :
    t.decode.1.config.get s = v ∧ v.isEmpty = false ↔ t.Builds s v := by
  refine ⟨fun ⟨h, hv⟩ => ?_, get_of_builds⟩
  rcases t.get_cases s with hd | hi | ⟨w, hb⟩
  · rw [← h, hd] at hv; cases hv
  · rw [← h, get_of_ignores hi] at hv; cases hv
  · rw [← h, (get_of_builds hb).1]; exact hb

/-- A slot is deleted exactly if its table does neither. -/
theorem get_eq_delete_iff :
    t.decode.1.config.get s = .delete ↔ ¬t.Ignores s ∧ ∀ v, ¬t.Builds s v := by
  constructor
  · intro h
    refine ⟨fun hi => ?_, fun v hb => ?_⟩
    · rw [get_of_ignores hi] at h; cases h
    · obtain ⟨hg, hv⟩ := get_of_builds hb
      rw [← hg, h] at hv; cases hv
  · rintro ⟨hi, hb⟩
    exact (t.get_cases s).resolve_right fun h => h.elim hi fun ⟨v, hv⟩ => hb v hv

/-! ## What is reported -/

theorem finding_of_mem_misplaced {d : Diagnostic} (h : d ∈ t.misplaced) :
    ∃ key fault, d.finding = .error (.unknownSlot key fault) := by
  rw [misplaced_eq] at h
  obtain ⟨bus, -, h⟩ := List.mem_flatMap.1 h
  obtain ⟨key, -, h⟩ := List.mem_flatMap.1 h
  unfold stray at h
  split at h
  · cases h
  · rw [List.mem_singleton.1 h]; exact ⟨_, _, rfl⟩

/-- No table finds its slot taken. -/
theorem duplicate_not_mem_decode {d : Diagnostic} (h : d ∈ t.decode.1.report) (name : String) :
    d.finding ≠ .error (.duplicateSlot name) := by
  rw [report_decode, reports, List.mem_append] at h
  rcases h with h | h
  · obtain ⟨key, fault, hf⟩ := finding_of_mem_misplaced h
    rw [hf]; exact nofun
  · obtain ⟨s, -, h⟩ := List.mem_flatMap.1 h
    unfold reportsOf at h
    cases ht : t.tableOf s with
    | none => rw [ht] at h; cases h
    | some table =>
      rw [ht] at h
      rcases SlotTable.finding_of_mem_reports h with ⟨key, hf⟩ | hf | hf
      · rw [hf]; exact nofun
      · intro he; rw [he] at hf; exact hf
      · rw [hf]; exact nofun

/-- One error is reported of each slot whose table asks for what does not go together. -/
theorem filter_conflicting (t : BusTables) :
    t.decode.1.report.filter (fun d => d.finding = .error .conflictingBlocks) =
      (Slot.all.filter fun s => (t.tableOf s).any (·.conflicts)).map fun s =>
        ⟨s.name, .error .conflictingBlocks⟩ := by
  have hmisplaced : t.misplaced.filter (fun d => d.finding = .error .conflictingBlocks) = [] := by
    rw [List.filter_eq_nil_iff]
    intro d hd
    obtain ⟨key, fault, hf⟩ := finding_of_mem_misplaced hd
    simp [hf]
  have hslot : ∀ s, (t.reportsOf s).filter (fun d => d.finding = .error .conflictingBlocks) =
      if (t.tableOf s).any (·.conflicts) then [⟨s.name, .error .conflictingBlocks⟩] else [] := by
    intro s
    unfold reportsOf
    cases t.tableOf s with
    | none => rfl
    | some table => exact SlotTable.filter_conflicting s table
  rw [report_decode, reports, List.filter_append, hmisplaced, List.nil_append, List.filter_flatMap]
  simp only [hslot]
  induction Slot.all with
  | nil => rfl
  | cons s slots ih =>
    rw [List.flatMap_cons, ih, List.filter_cons]
    split <;> rfl

/-- **Reading slot tables does what each table says.** No two keys stand for one slot, so the located
tables are taken once each, and no slot is reported taken. A slot is unchanged exactly when its own table
says so and asks for no device; it holds a device exactly when its table asks for one device, the slot is
not to be ignored and the device can be built; else it is deleted. Each table that asks for what does not
go together is reported once. The report lists first the keys that name no slot of their bus, bus by bus
and in order, and then what is found about each slot, in slot order. -/
theorem decode_tablewise (t : BusTables) :
    (∀ bus key bus' key' s, Slot.ofNameOn bus key = .ok s → Slot.ofNameOn bus' key' = .ok s →
      bus = bus' ∧ key = key') ∧
    (t.inSlotOrder.Perm t.located ∧ (t.located.map (·.1)).Nodup ∧
      (∀ s table, (s, table) ∈ t.located ↔ t.tableOf s = some table) ∧
      t.decode.2.map Event.tableSlot? = t.inSlotOrder.map fun e => some e.1) ∧
    (∀ d ∈ t.decode.1.report, ∀ name, d.finding ≠ .error (.duplicateSlot name)) ∧
    (∀ s, t.decode.1.config.get s = .unchanged ↔ t.Ignores s) ∧
    (∀ s v, t.decode.1.config.get s = v ∧ v.isEmpty = false ↔ t.Builds s v) ∧
    (∀ s, t.decode.1.config.get s = .delete ↔ ¬t.Ignores s ∧ ∀ v, ¬t.Builds s v) ∧
    (t.decode.1.report.filter (fun d => d.finding = .error .conflictingBlocks) =
      (Slot.all.filter fun s => (t.tableOf s).any (·.conflicts)).map fun s =>
        ⟨s.name, .error .conflictingBlocks⟩) ∧
    (∀ bus key fault, Slot.ofNameOn bus key = .error fault ↔
      (∃ s, Slot.ofName key = .ok s ∧ s.bus ≠ bus ∧ fault = .wrongBus s bus) ∨
        Slot.ofName key = .error fault) ∧
    (∀ bus, (t.onBus bus).keys.Pairwise (· < ·)) ∧
    t.decode.1.report = (Bus.all.flatMap fun bus => (t.onBus bus).keys.flatMap (stray bus)) ++
      Slot.all.flatMap t.reportsOf := by
  refine ⟨fun _ _ _ _ _ => Slot.eq_of_ofNameOn, ⟨t.inSlotOrder_perm, t.nodup_located, t.mem_located, ?events⟩,
    fun _ => duplicate_not_mem_decode, fun _ => get_eq_unchanged_iff, fun _ _ => get_eq_device_iff,
    fun _ => get_eq_delete_iff, t.filter_conflicting, fun _ _ _ => Slot.ofNameOn_eq_error_iff,
    fun _ => KeyMap.pairwise_keys _, ?report⟩
  case events => exact tableSlot?_assign _ _
  case report => rw [report_decode, reports, misplaced_eq]

/-- A drive in a slot that is to be ignored is a conflict and no duplicate, whatever key stands beside
it. -/
theorem decode_tablewise_drive :
    let drive : Slot := ⟨.ide, 2, by decide⟩
    let t : BusTables :=
      { ide := .ofList [("ide2", { ignore := true, cdrom := some {} }), ("nvme0", {})] }
    (Slot.ofNameOn .ide "ide2" = .ok drive ∧ Bus.ide = Bus.ide ∧ "ide2" = "ide2") ∧
    (⟨drive.name, .error .conflictingBlocks⟩ ∈ t.decode.1.report ∧
      ∀ name, Finding.error .conflictingBlocks ≠ .error (.duplicateSlot name)) := by
  intro drive t
  have hname : Slot.ofNameOn .ide "ide2" = .ok drive := by decide
  have hmem : ⟨drive.name, .error .conflictingBlocks⟩ ∈ t.decode.1.report := by decide +kernel
  exact ⟨⟨hname, (decode_tablewise t).1 _ _ _ _ _ hname hname⟩,
    ⟨hmem, (decode_tablewise t).2.2.1 _ hmem⟩⟩

end BusTables

end GuestDisks
