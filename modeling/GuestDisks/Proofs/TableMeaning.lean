import GuestDisks.Proofs.ListMeaning
import GuestDisks.Proofs.Maps
import GuestDisks.Proofs.SubTables

/-!
# What slot tables mean

A key names a slot of its bus only if it is the slot's name, so a slot has one table at most
(`tableOf`, `lookup_located`). As in a list, a table **wants** something of its slot. What it wants and
what it warns about is said of its sub-tables (`wanted`, `noted`), and is what the list of devices says
(`wanted_eq`, `noted_eq`). Reading tables is carrying out the steps of all slots in order
(`decode_eq_run`), so

* a slot holds what its own table wants, or nothing (`get_decode`),
* the report names the keys without a slot and then what each slot's table reports
  (`report_decode`).
-/

namespace GuestDisks

open Assignment Data

namespace SlotTable

/-- The keys that a table warns about: its own unknown ones and, where it has one sub-table and the slot is
not to be ignored, those of the sub-table, each after the sub-table's key. -/
def noted (t : SlotTable) : List String :=
  t.unknown.keys ++
    match t.disk, t.passthrough, t.cdrom, t.cloudInit, t.ignore with
    | some b, none, none, none, false => b.unknown.keys.map ("disk." ++ ·)
    | none, some b, none, none, false => b.unknown.keys.map ("passthrough." ++ ·)
    | none, none, some b, none, false => b.unknown.keys.map ("cdrom." ++ ·)
    | none, none, none, some b, false => b.unknown.keys.map ("cloudinit." ++ ·)
    | _, _, _, _, _ => []

/-- What a table wants a slot to hold: the device of its sub-table, or what is there already. An empty table
wants nothing, and one that says more than one of these has a problem. -/
def wanted (s : Slot) (t : SlotTable) : Option (Checked Variant) :=
  match t.disk, t.passthrough, t.cdrom, t.cloudInit, t.ignore with
  | none, none, none, none, false => none
  | none, none, none, none, true => some (pure .unchanged)
  | some b, none, none, none, false => some (b.on s).build
  | none, some b, none, none, false => some (b.on s).build
  | none, none, some b, none, false => some (b.on s).build
  | none, none, none, some b, false => some (b.on s).build
  | _, _, _, _, _ => some (.problem .conflictingBlocks)

/-- The unknown keys are those of the one element of the list of devices, if it has one. -/
theorem noted_eq (t : SlotTable) : t.noted = t.unknown.keys ++
    match t.devices, t.ignore with
    | [d], false => d.unknown.keys.map fun key => d.block.label ++ "." ++ key
    | _, _ => [] := by
  obtain ⟨ignore, disk, passthrough, cdrom, cloudInit, unknown⟩ := t
  cases disk <;> cases passthrough <;> cases cdrom <;> cases cloudInit <;> cases ignore <;> rfl

/-- What is wanted is told by the list of devices. -/
theorem wanted_eq (s : Slot) (t : SlotTable) : t.wanted s =
    match t.devices, t.ignore with
    | [], false => none
    | [], true => some (pure .unchanged)
    | [d], false => some (d.on s).build
    | _, _ => some (.problem .conflictingBlocks) := by
  obtain ⟨ignore, disk, passthrough, cdrom, cloudInit, unknown⟩ := t
  cases disk <;> cases passthrough <;> cases cdrom <;> cases cloudInit <;> cases ignore <;> rfl

section

variable {s : Slot} {t : SlotTable} {r : Request}

/-- A table that says nothing wants nothing. -/
theorem wanted_of_empty (hc : t.count = 0) (hi : t.ignore = false) : t.wanted s = none := by
  rw [wanted_eq, devices_eq_nil_iff.2 hc, hi]

/-- A table that is only to be ignored leaves its slot as it is. -/
theorem wanted_of_ignored (hc : t.count = 0) (hi : t.ignore = true) :
    t.wanted s = some (pure .unchanged) := by
  rw [wanted_eq, devices_eq_nil_iff.2 hc, hi]

/-- A table with one sub-table wants the device that it asks for. -/
theorem wanted_of_single (hc : t.count = 1) (hr : t.AsksFor s r) (hi : t.ignore = false) :
    t.wanted s = some r.build := by
  obtain ⟨d, hd⟩ := exists_devices_eq hc
  rw [wanted_eq, hd, hi, (asksFor_of_single hd).1 hr]

end

/-- What is reported about the table of a slot: unknown keys, then what is wrong with it. -/
def reports (s : Slot) (t : SlotTable) : Report :=
  .ofFindings s.name (t.noted.map (fun key => .warning (.unknownField key)) ++
    (t.wanted s).elim [] (·.findings))

/-- The claim that a table makes on its slot. -/
def claim (s : Slot) (t : SlotTable) : Option Step :=
  match t.devices, t.ignore with
  | [], false => none
  | [], true => some (.leaveUnchanged s)
  | [d], false => some (.add (d.on s))
  | _, _ => some (.reject s .conflictingBlocks)

/-- The steps that the table of a slot asks for. -/
def steps (s : Slot) (t : SlotTable) : List Step := warnings s t.noted ++ (t.claim s).toList

/-- Reading a slot table is carrying out its steps. -/
theorem assign_eq_run (a : Assignment) (s : Slot) (t : SlotTable) :
    (t.assign a s).1 = a.run (t.steps s) := by
  unfold assign steps claim
  rw [warnUnknown_eq_run, noted_eq]
  rcases t.devices with _ | ⟨d, _ | ⟨d', ds⟩⟩
  · cases t.ignore <;> simp only [List.append_nil, run_append] <;> rfl
  · cases t.ignore
    · simp only [warnings, List.map_append, run_append, warnUnknown_eq_run]; rfl
    · simp only [List.append_nil, run_append]; rfl
  · simp only [List.append_nil, run_append]; rfl

theorem claim?_claim (s : Slot) (t : SlotTable) :
    (t.claim s).map (·.claim?) = (t.wanted s).map fun w => some (s, w) := by
  rw [wanted_eq]
  unfold claim
  rcases t.devices with _ | ⟨d, _ | ⟨d', ds⟩⟩ <;> cases t.ignore <;> rfl

theorem findSome?_steps (s : Slot) (t : SlotTable) (u : Slot) :
    (t.steps s).findSome? (·.claimOn u) = if s = u then t.wanted s else none :=
  findSome?_mention (claim?_claim s t) t.noted u

/-- The steps of a table report what there is to report about it, on a slot that is still free. -/
theorem reportsAfter_steps {done : List Step} {s : Slot} (hd : done.any (·.names s) = false)
    (t : SlotTable) : reportsAfter done (t.steps s) = t.reports s := by
  unfold steps reports
  rw [reportsAfter_mention (claim?_claim s t), hd]; rfl

end SlotTable

namespace BusTables

/-- The table of a slot: the one under the slot's name on the slot's bus. -/
def tableOf (t : BusTables) (s : Slot) : Option SlotTable := (t.onBus s.bus).get? s.name

/-- The located tables are those that stand under the names of slots. -/
theorem mem_located (t : BusTables) (s : Slot) (table : SlotTable) :
    (s, table) ∈ t.located ↔ t.tableOf s = some table := by
  unfold located tables tableOf
  rw [KeyMap.get?_eq_some_iff]
  simp only [List.mem_filterMap, List.mem_flatMap, List.mem_map, Option.map_eq_some_iff]
  constructor
  · rintro ⟨_, ⟨bus, -, e, he, rfl⟩, u, hu, h⟩
    cases h
    have hok : Slot.ofNameOn bus e.1 = .ok s := by
      cases hs : Slot.ofNameOn bus e.1 with
      | error fault => rw [hs] at hu; cases hu
      | ok v => rw [hs] at hu; cases hu; rfl
    obtain ⟨rfl, hn⟩ := Slot.ofNameOn_eq_ok_iff.1 hok
    exact hn ▸ he
  · intro h
    refine ⟨_, ⟨s.bus, by cases s.bus <;> decide, _, h, rfl⟩, s, ?_, rfl⟩
    rw [Slot.ofNameOn_eq_ok_iff.2 ⟨rfl, rfl⟩]; rfl

/-- **A slot has one table at most**, and it stands under the slot's name. -/
theorem lookup_located (t : BusTables) (s : Slot) : t.located.lookup s = t.tableOf s := by
  ext table
  rw [← mem_located]
  refine ⟨mem_of_lookup, fun h => lookup_of_mem h fun other ho => ?_⟩
  rw [mem_located] at h ho
  exact Option.some.inj (ho.symm.trans h)

/-- Tables given slot by slot, each under the name of its slot. -/
def ofSlots (table : Slot → Option SlotTable) : BusTables :=
  .ofBuses fun bus => .ofList <| Slot.all.filterMap fun s =>
    if s.bus = bus then (table s).map fun t => (s.name, t) else none

/-- **On a bus stand the tables of its slots**, each under the name of its slot. -/
theorem get?_onBus_ofSlots {table : Slot → Option SlotTable} {bus : Bus} {key : String} {t : SlotTable} :
    ((ofSlots table).onBus bus).get? key = some t ↔ ∃ s : Slot, s.bus = bus ∧ s.name = key ∧ table s = some t := by
  have honBus : (ofSlots table).onBus bus = .ofList (Slot.all.filterMap fun s =>
      if s.bus = bus then (table s).map fun t => (s.name, t) else none) := by
    cases bus <;> rfl
  have hmem : ∀ t, (key, t) ∈ (Slot.all.filterMap fun s =>
      if s.bus = bus then (table s).map fun t => (s.name, t) else none) ↔
        ∃ s : Slot, s.bus = bus ∧ s.name = key ∧ table s = some t := by
    intro t
    simp only [List.mem_filterMap, Slot.mem_all, true_and, Option.ite_none_right_eq_some,
      Option.map_eq_some_iff, Prod.mk.injEq]
    exact exists_congr fun s => and_congr_right fun _ =>
      ⟨fun ⟨_, ht, hn, he⟩ => ⟨hn, he ▸ ht⟩, fun ⟨hn, ht⟩ => ⟨t, ht, hn, rfl⟩⟩
  rw [honBus, KeyMap.get?_ofList, ← hmem]
  refine ⟨fun h => List.mem_reverse.1 (mem_of_lookup h), fun h => ?_⟩
  -- a name is that of one slot, so no key is listed twice and the order does not matter
  refine lookup_of_mem (List.mem_reverse.2 h) fun other ho => ?_
  obtain ⟨s, -, hs, ht⟩ := (hmem t).1 h
  obtain ⟨u, -, hu, ho⟩ := (hmem other).1 (List.mem_reverse.1 ho)
  have hus : u = s := Slot.name_injective (hu.trans hs.symm)
  rw [hus, ht] at ho
  exact (Option.some.inj ho).symm

/-- Tables given slot by slot are found again. -/
theorem tableOf_ofSlots (table : Slot → Option SlotTable) (s : Slot) :
    (ofSlots table).tableOf s = table s := by
  ext t
  unfold tableOf
  rw [get?_onBus_ofSlots]
  constructor
  · rintro ⟨u, -, hn, ht⟩
    rwa [Slot.name_injective hn] at ht
  · intro ht
    exact ⟨s, rfl, rfl, ht⟩

/-- The steps that are taken for a slot. -/
def stepsOf (t : BusTables) (s : Slot) : List Step := (t.tableOf s).elim [] (·.steps s)

/-- What is reported about a slot. -/
def reportsOf (t : BusTables) (s : Slot) : Report := (t.tableOf s).elim [] (·.reports s)

/-- What is reported about a key of a bus: that it names no slot there, if so. -/
def stray (bus : Bus) (key : String) : Report :=
  match Slot.ofNameOn bus key with
  | .ok _ => []
  | .error fault => [⟨place bus key, .error (.unknownSlot key fault)⟩]

/-- The misplaced keys are reported bus by bus, in the order of keys. -/
theorem misplaced_eq (t : BusTables) :
    t.misplaced = Bus.all.flatMap fun bus => (t.onBus bus).keys.flatMap (stray bus) := by
  unfold misplaced tables KeyMap.keys
  simp only [List.flatMap_assoc, List.flatMap_map]
  rfl

/-- The steps about keys that name no slot of their bus. -/
def misplacedSteps (t : BusTables) : List Step :=
  t.tables.flatMap fun e =>
    match Slot.ofNameOn e.1 e.2.1 with
    | .ok _ => []
    | .error fault => [.reportError (place e.1 e.2.1) (.unknownSlot e.2.1 fault)]

/-- Every key of tables given slot by slot names a slot of its bus. -/
theorem misplacedSteps_ofSlots (table : Slot → Option SlotTable) : (ofSlots table).misplacedSteps = [] := by
  unfold misplacedSteps tables
  rw [List.flatMap_eq_nil_iff]
  intro e he
  obtain ⟨bus, -, he⟩ := List.mem_flatMap.1 he
  obtain ⟨entry, hentry, rfl⟩ := List.mem_map.1 he
  obtain ⟨s, rfl, hn, -⟩ := get?_onBus_ofSlots.1 (KeyMap.get?_eq_some_iff.2 hentry)
  rw [Slot.ofNameOn_eq_ok_iff.2 ⟨rfl, hn.symm⟩]

/-- Reading the tables of some slots is carrying out their steps, slot by slot. -/
theorem assign_eq_run (t : BusTables) (a : Assignment) (slots : List Slot) :
    (assign a (slots.filterMap fun s => (t.tableOf s).map fun table => (s, table))).1 =
      a.run (slots.flatMap t.stepsOf) := by
  induction slots generalizing a with
  | nil => rfl
  | cons s slots ih =>
    rw [List.filterMap_cons, List.flatMap_cons, run_append, ← ih]
    unfold stepsOf
    cases t.tableOf s with
    | none => rfl
    | some table =>
      simp only [Option.map_some, Option.elim_some, ← SlotTable.assign_eq_run]; rfl

/-- The tables are taken in slot order, whatever the order of their keys. -/
theorem inSlotOrder_eq (t : BusTables) : t.inSlotOrder =
    Slot.all.filterMap fun s => (t.tableOf s).map fun table => (s, table) := by
  unfold inSlotOrder
  simp only [lookup_located]

theorem decode_eq (t : BusTables) : t.decode.1 =
    Assignment.run { Assignment.empty with report := t.misplaced } (Slot.all.flatMap t.stepsOf) := by
  unfold decode
  rw [inSlotOrder_eq, assign_eq_run]

theorem run_misplacedSteps (t : BusTables) : Assignment.empty.run t.misplacedSteps =
    { Assignment.empty with report := t.misplaced } := by
  have hclaim : ∀ st ∈ t.misplacedSteps, st.claim? = none := by
    intro st hst
    obtain ⟨e, -, hst⟩ := List.mem_flatMap.1 hst
    split at hst
    · cases hst
    · rw [List.mem_singleton.1 hst]; rfl
  have hnotes : t.misplacedSteps.flatMap (·.notes) = t.misplaced := by
    unfold misplacedSteps misplaced
    rw [List.flatMap_assoc]
    congr 1; funext e
    cases Slot.ofNameOn e.1 e.2.1 <;> simp [Step.notes]
  rw [run_notes _ hclaim, hnotes]; rfl

/-- **Reading tables is carrying out steps**: those about keys without a slot, then those of the
slots. -/
theorem decode_eq_run (t : BusTables) :
    t.decode.1 = Assignment.empty.run (t.misplacedSteps ++ Slot.all.flatMap t.stepsOf) := by
  rw [run_append, run_misplacedSteps, decode_eq]

/-- Where the table of a slot asks for one request or is absent, tables by slots add these requests. -/
theorem steps_ofSlots {table : Slot → Option SlotTable} {request : Slot → Option Request}
    (h : ∀ s, (table s).elim [] (·.steps s) = ((request s).map Step.add).toList) :
    (ofSlots table).misplacedSteps ++ Slot.all.flatMap (ofSlots table).stepsOf =
      Slot.all.filterMap fun s => (request s).map .add := by
  have hstepsOf : (ofSlots table).stepsOf = fun s => ((request s).map Step.add).toList := by
    funext s
    unfold stepsOf
    rw [tableOf_ofSlots, h]
  rw [misplacedSteps_ofSlots, List.nil_append, List.filterMap_eq_flatMap_toList, hstepsOf]

theorem misplaced_ofSlots (table : Slot → Option SlotTable) : (ofSlots table).misplaced = [] := by
  have h := run_misplacedSteps (ofSlots table)
  rw [misplacedSteps_ofSlots] at h
  exact (congrArg Assignment.report h).symm

/-- The claim on a slot is that of its own table. -/
theorem findSome?_stepsOf (t : BusTables) (slots : List Slot) (s : Slot) :
    (slots.flatMap t.stepsOf).findSome? (·.claimOn s) =
      if s ∈ slots then (t.tableOf s).bind (·.wanted s) else none := by
  induction slots with
  | nil => rfl
  | cons u slots ih =>
    rw [List.flatMap_cons, List.findSome?_append, ih]
    have hu : (t.stepsOf u).findSome? (·.claimOn s) =
        if u = s then (t.tableOf s).bind (·.wanted s) else none := by
      unfold stepsOf
      by_cases h : u = s
      · subst h
        cases t.tableOf u with
        | none => simp
        | some table => simp [SlotTable.findSome?_steps]
      · cases t.tableOf u with
        | none => simp [h]
        | some table => simp [SlotTable.findSome?_steps, h]
    rw [hu]
    -- an empty table leaves its slot unclaimed, and no other table claims it
    by_cases h : u = s
    · subst h
      by_cases hm : u ∈ slots <;> simp [hm]
    · simp [h, Ne.symm h]

/-- What tables mean for a slot: what its own table wants, if that can be built. -/
def meaning (t : BusTables) (s : Slot) : Variant :=
  (((t.tableOf s).bind (·.wanted s)).bind (·.value)).getD .delete

/-- **A slot holds what its own table wants.** -/
theorem get_decode (t : BusTables) (s : Slot) : t.decode.1.config.get s = t.meaning s := by
  rw [decode_eq, get_run (fun s _ => Configuration.get_empty s), if_neg (by simp [Assignment.empty]),
    outcome, findSome?_stepsOf, if_pos (Slot.mem_all s)]; rfl

/-- What the steps of slots report is what there is to report about each, as no slot is taken. -/
theorem reportsAfter_stepsOf (t : BusTables) {done : List Step} {slots : List Slot}
    (hn : slots.Nodup) (hd : ∀ s ∈ slots, done.any (·.names s) = false) :
    reportsAfter done (slots.flatMap t.stepsOf) = slots.flatMap t.reportsOf := by
  induction slots generalizing done with
  | nil => rfl
  | cons s slots ih =>
    obtain ⟨hs, hn⟩ := List.nodup_cons.1 hn
    obtain ⟨hds, hd⟩ := List.forall_mem_cons.1 hd
    have hfirst : reportsAfter done (t.stepsOf s) = t.reportsOf s := by
      unfold stepsOf reportsOf
      cases t.tableOf s with
      | none => rfl
      | some table => exact SlotTable.reportsAfter_steps hds table
    rw [List.flatMap_cons, reportsAfter_append, List.flatMap_cons, hfirst, ih hn]
    -- the table of `s` claims no other slot, so the slots that follow are still free
    intro u hu
    have hne : s ≠ u := fun h => hs (h ▸ hu)
    rw [List.any_append, hd u hu, Bool.false_or, any_names]
    unfold stepsOf
    cases t.tableOf s with
    | none => rfl
    | some table => simp [SlotTable.findSome?_steps, hne]

/-- What is reported about tables: the keys without a slot, then what each slot's table reports. -/
def reports (t : BusTables) : Report := t.misplaced ++ Slot.all.flatMap t.reportsOf

/-- **The report is that of the misplaced keys and then that of the slots, in order.** -/
theorem report_decode (t : BusTables) : t.decode.1.report = t.reports := by
  rw [decode_eq, report_run [] _ (by simp [Assignment.empty]),
    reportsAfter_stepsOf t Slot.nodup_all (fun _ _ => rfl)]; rfl

theorem report_decode_ofSlots (table : Slot → Option SlotTable) : (ofSlots table).decode.1.report =
    Slot.all.flatMap fun s => (table s).elim [] (·.reports s) := by
  have hreportsOf : (ofSlots table).reportsOf = fun s => (table s).elim [] (·.reports s) := by
    funext s
    unfold reportsOf
    rw [tableOf_ofSlots]
  have hreports : (ofSlots table).reports = [] ++ Slot.all.flatMap (ofSlots table).reportsOf := by
    unfold reports
    rw [misplaced_ofSlots]
  rw [report_decode, hreports, List.nil_append, hreportsOf]

end BusTables

end GuestDisks
