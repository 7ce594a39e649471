import GuestDisks.Proofs.RecordsReadBack

/-!
# Documents are read back

A document that was read from a text, or that was written for a configuration, can be written as data
again. `Document.ofData_table_iff` says when reading that data gives the document back: always, but where
a table in the value of an unknown key is written with the key first that the format uses for date-times.
All else survives: which roots are there, empty slot tables, a backup setting that is set to its default,
and every unknown key with its value.

* `BusTables.readsBack_iff`, `Document.readsBack_iff`: the parts of a document, down to the records.
* `Document.sound_of_read`, `Document.sound_encode`: documents of both kinds are sound.
-/

namespace GuestDisks

open Data Toml

/-! ## The tables of all buses -/

/-- A map that is read as a record is its members. -/
theorem eq_of_record {what : String} {surplus : Surplus} {fields : List (RecordField Value)} {ms ms' : Table}
    {whole : Bool} (h : record what surplus fields (.map ms whole) = .ok ms') : ms' = ms := by
  obtain ⟨_, -, h⟩ := bind_eq_ok_iff.1 h
  obtain ⟨_, -, h⟩ := bind_eq_ok_iff.1 h
  obtain ⟨_, -, h⟩ := bind_eq_ok_iff.1 h
  cases h; rfl

namespace BusTables

/-- The map of one bus as it is written. -/
def busTable (m : KeyMap SlotTable) : Value := .table (m.entries.map fun e => (e.1, .table e.2.table))

/-- **The map of a bus is read back if its tables are.** -/
theorem readsBack_bus_iff (m : KeyMap SlotTable) : ReadsBack readBus (busTable m) m ↔
    ∀ e ∈ m.entries, ReadsBack SlotTable.read (.table e.2.table) e.2 := by
  have hread : ∀ es : Table, readBus (.table es) = readEntries SlotTable.read es := fun _ => rfl
  have hentries : ReadsBack readBus (busTable m) m ↔
      ReadsBack (readEntries SlotTable.read) (m.entries.map fun e => (e.1, .table e.2.table)) m := by
    unfold ReadsBack busTable
    rw [hread]
  exact hentries.trans (readsBack_entries_iff (fun t : SlotTable => Value.table t.table) (.refl _))

/-- Each slot table of a bus that is read has sound parts. -/
theorem sound_of_readBus {v : Value} {m : KeyMap SlotTable} (h : readBus v = .ok m) :
    ∀ e ∈ m.entries, e.2.Sound := by
  intro e he
  unfold readBus at h
  split at h
  · rename_i ms whole hshape
    have hentries : readEntries SlotTable.read ms = .ok m := h
    obtain ⟨v, -, hread⟩ := exists_of_mem_readEntries hentries he
    exact SlotTable.sound_of_read hread
  · cases h

/-- What reading the slot tables looks up. -/
theorem of_read {v : Value} {t : BusTables} (h : read v = .ok t) : ∃ ms : Table,
    (∀ es, v = .table es → ms = es) ∧
      ∀ bus : Bus, Members.orElse ms bus.label readBus {} = .ok (t.onBus bus) := by
  obtain ⟨ms, hms, h⟩ := bind_eq_ok_iff.1 h
  obtain ⟨ide, hide, h⟩ := bind_eq_ok_iff.1 h
  obtain ⟨sata, hsata, h⟩ := bind_eq_ok_iff.1 h
  obtain ⟨scsi, hscsi, h⟩ := bind_eq_ok_iff.1 h
  obtain ⟨virtio, hvirtio, h⟩ := bind_eq_ok_iff.1 h
  cases h
  refine ⟨ms, ?_, ?_⟩
  · rintro es rfl
    exact eq_of_record hms
  · intro bus
    cases bus with
    | ide => exact hide
    | sata => exact hsata
    | scsi => exact hscsi
    | virtio => exact hvirtio

/-- Slot tables agree if they do on each bus. -/
theorem beq_iff {t s : BusTables} : (t == s) = true ↔ ∀ bus, (t.onBus bus == s.onBus bus) = true := by
  have h : (t == s) = (t.ide == s.ide && (t.sata == s.sata && (t.scsi == s.scsi &&
    t.virtio == s.virtio))) := rfl
  rw [h]
  simp only [Bool.and_eq_true]
  constructor
  · rintro ⟨h1, h2, h3, h4⟩ bus
    cases bus with
    | ide => exact h1
    | sata => exact h2
    | scsi => exact h3
    | virtio => exact h4
  · intro h
    exact ⟨h .ide, h .sata, h .scsi, h .virtio⟩

theorem lookup_table (t : BusTables) (bus : Bus) :
    t.table.lookup bus.label = some (busTable (t.onBus bus)) := by
  cases bus <;> rfl

/-- **The slot tables are read back if each is.** -/
theorem readsBack_iff (t : BusTables) : ReadsBack read (.table t.table) t ↔
    ∀ bus, ReadsBack readBus (busTable (t.onBus bus)) (t.onBus bus) := by
  constructor
  · rintro ⟨t', hread, hbeq⟩ bus
    obtain ⟨ms, hms, hbus⟩ := of_read hread
    have hread := hbus bus
    rw [hms t.table rfl, Members.orElse_of_lookup (t.lookup_table bus)] at hread
    exact ⟨t'.onBus bus, hread, beq_iff.1 hbeq bus⟩
  · intro h
    have horElse : ∀ bus : Bus, ∃ m, Members.orElse t.table bus.label readBus {} = .ok m ∧
        (m == t.onBus bus) = true := by
      intro bus
      obtain ⟨m, hread, hbeq⟩ := h bus
      exact ⟨m, (Members.orElse_of_lookup (t.lookup_table bus)).trans hread, hbeq⟩
    obtain ⟨ide, h1, e1⟩ := horElse .ide
    obtain ⟨sata, h2, e2⟩ := horElse .sata
    obtain ⟨scsi, h3, e3⟩ := horElse .scsi
    obtain ⟨virtio, h4, e4⟩ := horElse .virtio
    have hn : (t.table.map (·.1)).Nodup := by
      show (Bus.all.map Bus.label).Nodup
      decide
    have hfits : fields.Forall (·.Fits t.table) := ⟨.may h1, .may h2, .may h3, .may h4⟩
    refine ⟨⟨ide, sata, scsi, virtio⟩, ?_, beq_iff.2 fun bus => ?_⟩
    · refine bind_eq_of_ok (record_eq_ok hn hfits _ _ fun _ _ => rfl) ?_
      exact bind_eq_of_ok h1 <| bind_eq_of_ok h2 <| bind_eq_of_ok h3 <| bind_eq_of_ok h4 rfl
    · cases bus with
      | ide => exact e1
      | sata => exact e2
      | scsi => exact e3
      | virtio => exact e4

theorem sound_of_read {v : Value} {t : BusTables} (h : read v = .ok t) (bus : Bus) :
    ∀ e ∈ (t.onBus bus).entries, e.2.Sound := by
  obtain ⟨ms, -, hbus⟩ := of_read h
  have hread := hbus bus
  unfold Members.orElse at hread
  split at hread
  · exact sound_of_readBus hread
  · have hempty : (t.onBus bus).entries = [] := congrArg KeyMap.entries (Except.ok.inj hread).symm
    intro e he
    rw [hempty] at he
    cases he

end BusTables

/-! ## Documents -/

namespace Document

/-- The slot tables of a document. -/
def slotTables (d : Document) : List SlotTable := d.disks.toList.flatMap fun t => t.tables.map (·.2.2)

/-- The settings of all devices that a document asks for. -/
def settings (d : Document) : List Settings :=
  d.disk.map (·.fields.settings) ++ d.slotTables.flatMap fun t => t.devices.map (·.fields.settings)

/-- The unknown keys of a document: of its entries, its slot tables and their sub-tables. -/
def unknowns (d : Document) : List Unknowns :=
  d.disk.map (·.unknown) ++ d.slotTables.flatMap fun t => t.unknown :: t.devices.map (·.unknown)

/-- Every number in the document is one. -/
def HoldsNumbers (d : Document) : Prop :=
  (∀ s ∈ d.settings, s.limits.AreNumbers) ∧
    ∀ u ∈ d.unknowns, ∀ e ∈ u.entries, e.2.holds Value.isNaN = false

instance (d : Document) : Decidable d.HoldsNumbers :=
  inferInstanceAs (Decidable ((∀ s ∈ d.settings, s.limits.AreNumbers) ∧
    ∀ u ∈ d.unknowns, ∀ e ∈ u.entries, e.2.holds Value.isNaN = false))

/-- Some table in the value of an unknown key is written in the way in which a date-time shows itself. -/
def SpellsDatetime (d : Document) : Prop :=
  ∃ u ∈ d.unknowns, ∃ e ∈ u.entries, e.2.grouped.holds Value.spellsDatetime = true

instance (d : Document) : Decidable d.SpellsDatetime :=
  inferInstanceAs (Decidable (∃ u ∈ d.unknowns, ∃ e ∈ u.entries, e.2.grouped.holds Value.spellsDatetime = true))

/-- The document of a table, as texts are read. -/
def ofData (t : Table) : Except Unreadable Document :=
  match ofTable t with
  | .ok d => d.checked
  | .error fault => if Table.isSound t then .error (.unfit fault) else .error .notToml

theorem read_eq (text : String) : Document.read text =
    match Toml.readDocument text with
    | none => .error .notToml
    | some t => ofData t := rfl

/-- A document is refused only if it uses both surfaces. -/
theorem checked_eq_ok_iff {d d' : Document} :
    d.checked = .ok d' ↔ (d.disk.isEmpty = true ∨ d.disks.isSome = false) ∧ d = d' := by
  unfold checked
  cases d.disk.isEmpty <;> cases d.disks.isSome <;> simp

/-- Reading a document is reading its two parts and then the check. -/
theorem ofData_eq_ok_iff {t : Table} {d : Document} :
    ofData t = .ok d ↔ ofTable t = .ok d ∧ d.checked = .ok d := by
  unfold ofData
  cases ht : ofTable t with
  | error fault =>
    constructor
    · intro h
      dsimp only at h
      split at h
      · cases h
      · cases h
    · rintro ⟨⟨⟩, -⟩
  | ok d' =>
    constructor
    · intro h
      obtain ⟨-, rfl⟩ := checked_eq_ok_iff.1 h
      exact ⟨rfl, h⟩
    · rintro ⟨⟨⟩, h⟩
      exact h

/-- A document as reading leaves it. -/
structure Sound (d : Document) : Prop where
  disk : ∀ e ∈ d.disk, e.Sound
  disks : ∀ t ∈ d.slotTables, t.Sound
  roots : d.checked = .ok d

/-- The two parts of a document are read from their own keys. -/
theorem of_ofTable {t : Table} {d : Document} (h : ofTable t = .ok d) :
    Members.orElse t "disk" readList [] = .ok d.disk ∧
      Members.orElse t "disks" (optional BusTables.read) none = .ok d.disks := by
  obtain ⟨ms, hms, h⟩ := bind_eq_ok_iff.1 h
  obtain ⟨disk, hdisk, h⟩ := bind_eq_ok_iff.1 h
  obtain ⟨disks, hdisks, h⟩ := bind_eq_ok_iff.1 h
  cases h
  obtain rfl := eq_of_record hms
  exact ⟨hdisk, hdisks⟩

/-- The slot tables of a document are those of its buses. -/
theorem mem_slotTables {d : Document} {t : SlotTable} : t ∈ d.slotTables ↔
    ∃ b ∈ d.disks, ∃ bus, ∃ e ∈ (b.onBus bus).entries, e.2 = t := by
  have hall : ∀ bus : Bus, bus ∈ Bus.all := by
    intro bus
    cases bus <;> decide
  unfold slotTables BusTables.tables
  simp only [List.mem_flatMap, List.mem_map, Option.mem_toList, Option.mem_def]
  constructor
  · rintro ⟨b, hb, _, ⟨bus, -, e, he, rfl⟩, rfl⟩
    exact ⟨b, hb, bus, e, he, rfl⟩
  · rintro ⟨b, hb, bus, e, he, rfl⟩
    exact ⟨b, hb, (bus, e.1, e.2), ⟨bus, hall bus, e, he, rfl⟩, rfl⟩

theorem exists_entry_of_readList {v : Value} {es : List Entry} (h : readList v = .ok es) {e : Entry}
    (he : e ∈ es) : ∃ v, Entry.read v = .ok e := by
  unfold readList at h
  split at h
  · obtain ⟨v, -, hread⟩ := exists_of_mem_forall₂ (mapM_eq_ok_iff.1 h).flip he
    exact ⟨v, hread⟩
  · cases h

/-- **What is read is sound.** -/
theorem sound_of_read {text : String} {d : Document} (h : Document.read text = .ok d) : d.Sound := by
  rw [read_eq] at h
  split at h
  · cases h
  rename_i t _
  obtain ⟨ht, hroots⟩ := ofData_eq_ok_iff.1 h
  obtain ⟨hdisk, hdisks⟩ := of_ofTable ht
  refine ⟨?disk, ?disks, hroots⟩
  case disk =>
    intro e he
    unfold Members.orElse at hdisk
    split at hdisk
    · obtain ⟨v, hread⟩ := exists_entry_of_readList hdisk he
      exact (Entry.leavesRest_of_read hread).sound
    · rw [← Except.ok.inj hdisk] at he
      cases he
  case disks =>
    intro t ht
    obtain ⟨b, hb, bus, e, he, rfl⟩ := mem_slotTables.1 ht
    obtain ⟨v, hread⟩ := exists_read_of_orElse hdisks hb
    exact BusTables.sound_of_read hread bus e he

/-- Documents agree if both of their parts do. -/
theorem beq_iff {d d' : Document} : (d == d') = true ↔
    (d.disk == d'.disk) = true ∧ (d.disks == d'.disks) = true := by
  have h : (d == d') = (d.disk == d'.disk && d.disks == d'.disks) := rfl
  rw [h, Bool.and_eq_true]

theorem lookup_disk (d : Document) : d.table.lookup "disk" =
    if d.disk.isEmpty then none else some (.array (d.disk.map fun e => .table e.table)) := by
  unfold table
  rw [List.lookup_append, lookup_subTable]
  split <;> rfl

theorem lookup_disks (d : Document) : d.table.lookup "disks" = d.disks.map fun b => .table b.table := by
  unfold table
  rw [List.lookup_append, lookup_subTable]
  split <;> rfl

/-- **The list is read back if its entries are.** -/
theorem readsBack_disk_iff (d : Document) :
    ReadsBack (fun ms => Members.orElse ms "disk" readList []) d.table d.disk ↔
      ∀ e ∈ d.disk, ReadsBack Entry.read (.table e.table) e := by
  have hread : Members.orElse d.table "disk" readList [] =
      (d.disk.map fun e => Value.table e.table).mapM Entry.read := by
    have hlookup := d.lookup_disk
    split at hlookup
    · rename_i hempty
      rw [List.isEmpty_iff.1 hempty]
      exact Members.orElse_of_none hlookup
    · exact Members.orElse_of_lookup hlookup
  have hlist : ReadsBack (fun ms => Members.orElse ms "disk" readList []) d.table d.disk ↔
      ReadsBack (List.mapM Entry.read) (d.disk.map fun e => Value.table e.table) d.disk := by
    unfold ReadsBack
    simp only [hread]
  exact hlist.trans (readsBack_list_iff _)

/-- A document is read back exactly if both of its parts are. -/
theorem readsBack_ofTable_iff (d : Document) : ReadsBack ofTable d.table d ↔
    ReadsBack (fun ms => Members.orElse ms "disk" readList []) d.table d.disk ∧
    ReadsBack (fun ms => Members.orElse ms "disks" (optional BusTables.read) none) d.table d.disks := by
  constructor
  · rintro ⟨d', hread, hbeq⟩
    obtain ⟨hdisk, hdisks⟩ := of_ofTable hread
    obtain ⟨edisk, edisks⟩ := beq_iff.1 hbeq
    exact ⟨⟨d'.disk, hdisk, edisk⟩, ⟨d'.disks, hdisks, edisks⟩⟩
  · rintro ⟨⟨disk, hdisk, edisk⟩, ⟨disks, hdisks, edisks⟩⟩
    have hkeys : (d.table.map (·.1)).Sublist (["disk"] ++ ["disks"]) := by
      unfold table
      rw [List.map_append]
      refine .append ?_ (keys_subTable ..)
      split
      · exact List.nil_sublist _
      · exact .refl _
    have hn : (d.table.map (·.1)).Nodup := hkeys.nodup (by decide)
    have hfits : [RecordField.may "disk" readList, .may "disks" (optional BusTables.read)].Forall
        (·.Fits d.table) := ⟨.may hdisk, .may hdisks⟩
    refine ⟨⟨disk, disks⟩, ?_, beq_iff.2 ⟨edisk, edisks⟩⟩
    refine bind_eq_of_ok (record_eq_ok hn hfits _ _ fun _ _ => rfl) ?_
    exact bind_eq_of_ok hdisk <| bind_eq_of_ok hdisks rfl

/-- **The map is read back if its slot tables are.** -/
theorem readsBack_disks_iff (d : Document) :
    ReadsBack (fun ms => Members.orElse ms "disks" (optional BusTables.read) none) d.table d.disks ↔
      ∀ t ∈ d.slotTables, ReadsBack SlotTable.read (.table t.table) t := by
  rw [readsBack_subTable_iff d.lookup_disks]
  constructor
  · intro h t ht
    obtain ⟨b, hb, bus, e, he, rfl⟩ := mem_slotTables.1 ht
    have hbus := (b.readsBack_iff).1 (h b hb) bus
    exact (BusTables.readsBack_bus_iff _).1 hbus e he
  · intro h b hb
    rw [b.readsBack_iff]
    intro bus
    rw [BusTables.readsBack_bus_iff]
    intro e he
    exact h e.2 (mem_slotTables.2 ⟨b, hb, bus, e, he, rfl⟩)

/-- The unknown keys of a document stand in its entries, its slot tables and their sub-tables. -/
theorem forall_unknowns_iff {d : Document} {p : Unknowns → Prop} : (∀ u ∈ d.unknowns, p u) ↔
    (∀ e ∈ d.disk, p e.unknown) ∧ ∀ t ∈ d.slotTables, p t.unknown ∧ ∀ b ∈ t.devices, p b.unknown := by
  unfold unknowns
  simp only [List.forall_mem_append, List.forall_mem_map, List.forall_mem_flatMap, List.forall_mem_cons]

theorem forall_settings_iff {d : Document} {p : Settings → Prop} : (∀ s ∈ d.settings, p s) ↔
    (∀ e ∈ d.disk, p e.fields.settings) ∧ ∀ t ∈ d.slotTables, ∀ b ∈ t.devices, p b.fields.settings := by
  unfold settings
  simp only [List.forall_mem_append, List.forall_mem_map, List.forall_mem_flatMap]

/-- **A document is read back exactly if all its unknown keys are.** -/
theorem readsBack_iff {d : Document} (hd : d.Sound) (hn : d.HoldsNumbers) :
    ReadsBack ofTable d.table d ↔ ∀ u ∈ d.unknowns, u.AreReadBack := by
  obtain ⟨hndisk, hndisks⟩ := forall_settings_iff.1 hn.1
  rw [readsBack_ofTable_iff, readsBack_disk_iff, readsBack_disks_iff, forall_unknowns_iff]
  refine and_congr ?_ ?_
  · exact forall₂_congr fun e he => Entry.readsBack_iff (hd.disk e he) (hndisk e he)
  · exact forall₂_congr fun t ht => SlotTable.readsBack_iff (hd.disks t ht) (hndisks t ht)

/-- Sound documents keep the values of their unknown keys. -/
theorem Sound.kept {d : Document} (hd : d.Sound) : ∀ u ∈ d.unknowns, ∀ e ∈ u.entries, e.2.IsKept := by
  rw [forall_unknowns_iff]
  constructor
  · intro e he
    exact (hd.disk e he).unknown.kept
  · intro t ht
    have hsound := hd.disks t ht
    refine ⟨hsound.unknown.kept, SlotTable.forall_devices_iff.2 ⟨?_, ?_, ?_, ?_⟩⟩
    · exact fun b hb => (hsound.disk b hb).unknown.kept
    · exact fun b hb => (hsound.passthrough b hb).unknown.kept
    · exact fun b hb => (hsound.cdrom b hb).kept
    · exact fun b hb => (hsound.cloudInit b hb).kept

/-- The check does not tell documents apart that agree. -/
theorem checked_of_beq {d d' : Document} (h : (d' == d) = true) (hd : d.checked = .ok d) :
    d'.checked = .ok d' := by
  obtain ⟨hdisk, hdisks⟩ := beq_iff.1 h
  obtain ⟨hroots, -⟩ := checked_eq_ok_iff.1 hd
  refine checked_eq_ok_iff.2 ⟨hroots.imp ?_ ?_, rfl⟩
  · intro hempty
    rw [List.isEmpty_iff.1 hempty] at hdisk
    cases hd' : d'.disk with
    | nil => rfl
    | cons e es => rw [hd'] at hdisk; cases hdisk
  · intro hnone
    rw [Option.isSome_eq_false_iff, Option.isNone_iff_eq_none] at hnone
    rw [hnone] at hdisks
    cases hd' : d'.disks with
    | none => rfl
    | some b => rw [hd'] at hdisks; cases hdisks

/-- **Sound documents come back exactly if they spell no date-time.** -/
theorem Sound.comes_back_iff {d : Document} (hd : d.Sound) (hn : d.HoldsNumbers) :
    (∃ d', ofData d.table = .ok d' ∧ (d' == d) = true) ↔ ¬ d.SpellsDatetime := by
  -- what agrees with a document that was accepted has no more roots than it
  have hread : (∃ d', ofData d.table = .ok d' ∧ (d' == d) = true) ↔ ReadsBack ofTable d.table d := by
    unfold ReadsBack
    refine exists_congr fun d' => ?_
    rw [ofData_eq_ok_iff]
    constructor
    · rintro ⟨⟨hread, -⟩, hbeq⟩
      exact ⟨hread, hbeq⟩
    · rintro ⟨hread, hbeq⟩
      exact ⟨⟨hread, checked_of_beq hbeq hd.roots⟩, hbeq⟩
  rw [hread, readsBack_iff hd hn]
  unfold SpellsDatetime
  simp only [not_exists, not_and, Bool.not_eq_true]
  exact forall₂_congr fun u hu => Unknowns.areReadBack_iff (hd.kept u hu) (hn.2 u hu)

end Document

/-! ## Documents that were encoded -/

theorem Settings.areInt64_ofOptions (o : DiskOptions) : (Settings.ofOptions o).limits.AreInt64 :=
  FlatLimits.areInt64_widened o.limits.flat

/-- A written entry is as reading leaves one. -/
theorem Entry.sound_of_ofVariant {s : Slot} {v : Variant} {e : Entry} (h : Entry.ofVariant s v = some e) :
    e.Sound := by
  cases v with
  | disk v =>
    obtain rfl := Option.some.inj h
    exact ⟨Settings.areInt64_ofOptions v.options, Unknowns.sound_empty _⟩
  | passthrough d =>
    obtain rfl := Option.some.inj h
    exact ⟨Settings.areInt64_ofOptions d.options, Unknowns.sound_empty _⟩
  | cdrom m =>
    have hlimits : (Fields.ofMedium m).settings.limits.AreInt64 := by
      cases m <;> exact FlatLimits.areInt64_unlimited
    obtain rfl := Option.some.inj h
    exact ⟨hlimits, Unknowns.sound_empty _⟩
  | cloudInit storage =>
    obtain rfl := Option.some.inj h
    exact ⟨FlatLimits.areInt64_unlimited, Unknowns.sound_empty _⟩
  | delete => cases h
  | unchanged => cases h

namespace SlotTable

theorem forall_mem_none {β : Type} {p : β → Prop} : ∀ b ∈ (none : Option β), p b :=
  fun _ hb => absurd hb (Option.not_mem_none _)

theorem forall_mem_some {β : Type} {p : β → Prop} {b : β} (h : p b) : ∀ b' ∈ some b, p b' :=
  fun _ hb => Option.some.inj hb ▸ h

theorem sound_empty : Sound {} where
  disk := forall_mem_none
  passthrough := forall_mem_none
  cdrom := forall_mem_none
  cloudInit := forall_mem_none
  unknown := Unknowns.sound_empty _

theorem sound_of_disk {b : DiskBlock} (h : b.Sound) : Sound { disk := some b } :=
  { sound_empty with disk := forall_mem_some h }

theorem sound_of_passthrough {b : HostDiskBlock} (h : b.Sound) : Sound { passthrough := some b } :=
  { sound_empty with passthrough := forall_mem_some h }

theorem sound_of_cdrom (iso : String) (passthrough : Bool) : Sound { cdrom := some { iso, passthrough } } :=
  { sound_empty with cdrom := forall_mem_some (Unknowns.sound_empty _) }

theorem sound_of_cloudInit (storage : String) : Sound { cloudInit := some { storage } } :=
  { sound_empty with cloudInit := forall_mem_some (Unknowns.sound_empty _) }

/-- A written slot table is as reading leaves one. -/
theorem sound_ofVariant (v : Variant) : (ofVariant v).Sound := by
  cases v with
  | disk v => exact sound_of_disk ⟨Settings.areInt64_ofOptions v.options, Unknowns.sound_empty _⟩
  | passthrough d => exact sound_of_passthrough ⟨Settings.areInt64_ofOptions d.options, Unknowns.sound_empty _⟩
  | cdrom m => exact sound_of_cdrom _ _
  | cloudInit storage => exact sound_of_cloudInit storage
  | delete => exact sound_empty
  | unchanged => exact sound_empty

end SlotTable

namespace Document

/-- **What is written for a configuration is sound.** -/
theorem sound_encode (surface : Surface) (c : Configuration) : (encode surface c).output.Sound := by
  cases surface with
  | list =>
    refine ⟨?_, ?_, checked_eq_ok_iff.2 ⟨.inr rfl, rfl⟩⟩
    · intro e he
      obtain ⟨⟨s, v⟩, -, hv⟩ := List.mem_filterMap.1 he
      exact Entry.sound_of_ofVariant hv
    · intro t ht
      cases ht
  | expanded =>
    refine ⟨?_, ?_, checked_eq_ok_iff.2 ⟨.inl rfl, rfl⟩⟩
    · intro e he
      cases he
    · intro t ht
      obtain ⟨b, hb, bus, e, he, rfl⟩ := mem_slotTables.1 ht
      obtain rfl := Option.some.inj hb
      -- a slot has a table, if an empty one, whether or not something is in it
      rw [BusTables.encode_eq_ofSlots] at he
      obtain ⟨s, -, -, hs⟩ := BusTables.get?_onBus_ofSlots.1 (KeyMap.get?_eq_some_iff.2 he)
      rw [← Option.some.inj hs]
      exact SlotTable.sound_ofVariant (c.get s)

/-- **A document that was read, or written for a configuration, comes back as it was** when its data is
read, unless a table in the value of an unknown key is written like a date-time: then it does not. -/
theorem ofData_table_iff {d : Document} (h : (∃ text, Document.read text = .ok d) ∨
    ∃ surface c, d = (encode surface c).output) (hn : d.HoldsNumbers) :
    (∃ d', ofData d.table = .ok d' ∧ (d' == d) = true) ↔ ¬ d.SpellsDatetime := by
  have hsound : d.Sound := by
    rcases h with ⟨text, hread⟩ | ⟨surface, c, rfl⟩
    · exact sound_of_read hread
    · exact sound_encode surface c
  exact hsound.comes_back_iff hn

theorem exists_ok_of_any {ε α : Type} {x : Except ε α} {p : α → Bool} (h : x.toOption.any p = true) :
    ∃ a, x = .ok a ∧ p a = true := by
  cases x with
  | error e => cases h
  | ok a => exact ⟨a, rfl, h⟩

/-- A document with a table of several kinds of values under an unknown key, of which one is a date. -/
def annotated : String :=
  "[disks.scsi.scsi0.disk]\nstorage = \"local\"\nsize = \"8G\"\nformat = \"raw\"\nbackup = true\n\n" ++
  "[disks.scsi.scsi0.disk.note]\nzone = { b = 1.5, a = [1, 2] }\nbought = 1979-05-27\n"

/-- A document that holds a date among other values under an unknown key is read back from its data. -/
theorem ofData_table_annotated : ∃ d, Document.read annotated = .ok d ∧ d.HoldsNumbers ∧ ¬ d.SpellsDatetime ∧
    ∃ d', ofData d.table = .ok d' ∧ (d' == d) = true := by
  have h : (Document.read annotated).toOption.any
      (fun d => decide d.HoldsNumbers && decide (¬ d.SpellsDatetime)) = true := by decide +kernel
  obtain ⟨d, hread, h⟩ := exists_ok_of_any h
  rw [Bool.and_eq_true, decide_eq_true_eq, decide_eq_true_eq] at h
  obtain ⟨hnumbers, hspells⟩ := h
  exact ⟨d, hread, hnumbers, hspells, (ofData_table_iff (.inl ⟨annotated, hread⟩) hnumbers).2 hspells⟩

/-- A document with a table under an unknown key whose second key is that of date-times. -/
def spelledLate : String :=
  "[[disk]]\nslot = \"ide0\"\ntype = \"cdrom\"\n\n" ++
  "[disk.x]\nb = 1\n\"$__toml_private_datetime\" = \"1979-05-27\"\n"

/-- A table that spells a date-time only once its keys are in order is read, and does not come back. -/
theorem spelled_out_of_order : ∃ d, Document.read spelledLate = .ok d ∧ d.HoldsNumbers ∧
    ¬ ∃ d', ofData d.table = .ok d' ∧ (d' == d) = true := by
  have h : (Document.read spelledLate).toOption.any
      (fun d => decide d.HoldsNumbers && !(ofData d.table).toOption.isSome) = true := by decide +kernel
  obtain ⟨d, hread, h⟩ := exists_ok_of_any h
  rw [Bool.and_eq_true, decide_eq_true_eq] at h
  obtain ⟨hnumbers, hfails⟩ := h
  refine ⟨d, hread, hnumbers, ?_⟩
  rintro ⟨d', hd', -⟩
  rw [hd'] at hfails
  cases hfails

end Document

end GuestDisks
