import GuestDisks.Proofs.AgreeingDocuments
import GuestDisks.Proofs.CanonicalForm
import GuestDisks.Proofs.TomlText

/-!
# Documents, written as text

The data of a document without unknown keys is a table in sections (`Document.isSection_table`), if the
throughputs in it are read back as they are printed: plain values in the lines of entries and sub-tables, and
headers for what is around them. So its text is read as its data (`Document.read_write`).

What is written for a configuration knows all of its keys and has no throughputs but those of the
configuration. So the text that is written for a well-formed configuration is read as a document with nothing
to report about, which comes to the configuration again, with what was unchanged deleted
(`Document.decode_text_encode`).
-/

namespace GuestDisks

open Data Toml

/-! ## The data of records -/

/-- Every throughput that is shown is read back as it is printed. -/
def Settings.IsReadable (s : Settings) : Prop :=
  ∀ e ∈ s.limits.throughputs, e.2.isZero = false → IsReadBack e.2

/-- Settings are written in the lines of their keys. -/
theorem Settings.isPlain_entries {s : Settings} (hi : s.limits.AreInt64) (hs : s.IsReadable) :
    ∀ e ∈ s.entries, (Value.ofScalar e.2).IsPlain := by
  intro e he
  rw [entries_eq_filter, List.mem_filter] at he
  obtain ⟨hmem, hshown⟩ := he
  unfold scalars FlatLimits.entries at hmem
  simp only [List.mem_append] at hmem
  rcases hmem with ((hmem | hmem) | hmem) | hmem | hmem
  · have hfront : ∀ e ∈ s.front, (Value.ofScalar e.2).IsPlain :=
      List.forall_iff_forall_mem.1 ⟨trivial, trivial, trivial, trivial⟩
    exact hfront e hmem
  · unfold backupEntry at hmem
    obtain ⟨b, -, rfl⟩ := List.mem_map.1 hmem
    trivial
  · have hback : ∀ e ∈ s.back, (Value.ofScalar e.2).IsPlain :=
      List.forall_iff_forall_mem.1 ⟨trivial, trivial, trivial, trivial, trivial⟩
    exact hback e hmem
  · obtain ⟨f, hf, rfl⟩ := List.mem_map.1 hmem
    -- a throughput is shown only if it is not zero
    have hkey : f.1 ≠ "backup" := ne_of_lookup_eq_none rfl hf
    rw [beq_false_of_ne hkey, Bool.false_or] at hshown
    exact hs f hf (by simpa [Scalar.isSet] using hshown)
  · obtain ⟨f, hf, rfl⟩ := List.mem_map.1 hmem
    obtain ⟨hlow, hhigh⟩ := hi f hf
    exact ⟨hlow, by omega⟩

theorem isSection_ofEntries {es : List (String × Scalar)} (hn : (es.map (·.1)).Nodup)
    (hplain : ∀ e ∈ es, (Value.ofScalar e.2).IsPlain) :
    IsSection (.table (Table.ofEntries es ++ Unknowns.table {})) := by
  refine .table ?_ nofun ?_
  · intro e he
    obtain ⟨f, hf, rfl⟩ := List.mem_map.1 he
    exact hplain f hf
  · have hempty : Unknowns.table {} = [] := rfl
    rw [hempty, List.append_nil, map_key_ofEntries]
    exact hn

section Records

variable {always own : List (String × Scalar)}

/-- A record with fields of its own. -/
theorem isSection_own (hown : (own.map (·.1)).Nodup) (hplain : ∀ e ∈ own, (Value.ofScalar e.2).IsPlain) :
    IsSection (.table (Table.ofEntries (setEntries own) ++ Unknowns.table {})) := by
  refine isSection_ofEntries (hown.sublist (List.filter_sublist.map _)) ?_
  intro e he
  exact hplain e (List.mem_of_mem_filter he)

/-- A record with settings. -/
theorem isSection_settings {s : Settings} (hi : s.limits.AreInt64) (hs : s.IsReadable)
    (hown : ((always ++ own).map (·.1)).Nodup) (hsettings : ∀ k ∈ Settings.keys, k ∉ (always ++ own).map (·.1))
    (hplain : ∀ e ∈ always ++ own, (Value.ofScalar e.2).IsPlain) :
    IsSection (.table (Table.ofEntries (always ++ setEntries own ++ s.entries) ++ Unknowns.table {})) := by
  have hlaid := laidOut_settings (s := s) hown hsettings (Unknowns.sound_empty _)
  refine isSection_ofEntries ?_ ?_
  · have hnodup := hlaid.nodup
    rwa [show Unknowns.table {} = [] from rfl, List.append_nil, map_key_ofEntries] at hnodup
  · intro e he
    rw [List.mem_append, List.mem_append] at he
    rcases he with (he | he) | he
    · exact hplain e (List.mem_append_left _ he)
    · exact hplain e (List.mem_append_right _ (List.mem_of_mem_filter he))
    · exact s.isPlain_entries hi hs e he

end Records

/-- An entry without unknown keys is written as a section of plain values. So are the sub-tables below. -/
theorem Entry.isSection_table {e : Entry} (he : e.Sound) (hu : e.unknown = {})
    (hs : e.fields.settings.IsReadable) : IsSection (.table e.table) := by
  unfold table
  rw [hu]
  refine isSection_settings he.limits hs
    (by decide : (ownFields.map (·.key)).Nodup)
    (by decide : ∀ k ∈ Settings.keys, k ∉ ownFields.map (·.key)) ?_
  exact List.forall_iff_forall_mem.1 ⟨trivial, trivial, trivial, trivial, trivial, trivial, trivial, trivial⟩

/-! ## The data of slot tables -/

theorem DiskBlock.isSection_table {b : DiskBlock} (hb : b.Sound) (hu : b.unknown = {})
    (hs : b.settings.IsReadable) : IsSection (.table b.table) := by
  unfold table
  rw [hu]
  show IsSection (.table (Table.ofEntries ([] ++ setEntries [("storage", .text b.storage),
    ("size", .text b.size), ("format", .text b.format)] ++ b.settings.entries) ++ Unknowns.table {}))
  refine isSection_settings hb.limits hs
    (by decide : (ownFields.map (·.key)).Nodup)
    (by decide : ∀ k ∈ Settings.keys, k ∉ ownFields.map (·.key)) ?_
  exact List.forall_iff_forall_mem.1 ⟨trivial, trivial, trivial⟩

theorem HostDiskBlock.isSection_table {b : HostDiskBlock} (hb : b.Sound) (hu : b.unknown = {})
    (hs : b.settings.IsReadable) : IsSection (.table b.table) := by
  unfold table
  rw [hu]
  show IsSection (.table (Table.ofEntries ([] ++ setEntries [("file", .text b.file)] ++ b.settings.entries) ++
    Unknowns.table {}))
  refine isSection_settings hb.limits hs
    (by decide : (ownFields.map (·.key)).Nodup)
    (by decide : ∀ k ∈ Settings.keys, k ∉ ownFields.map (·.key)) ?_
  exact List.forall_iff_forall_mem.1 trivial

theorem CdromBlock.isSection_table {b : CdromBlock} (hu : b.unknown = {}) : IsSection (.table b.table) := by
  unfold table
  rw [hu]
  exact isSection_own (by decide : (ownFields.map (·.key)).Nodup)
    (List.forall_iff_forall_mem.1 ⟨trivial, trivial⟩)

theorem CloudInitBlock.isSection_table {b : CloudInitBlock} (hu : b.unknown = {}) :
    IsSection (.table b.table) := by
  unfold table
  rw [hu]
  exact isSection_own (by decide : (ownFields.map (·.key)).Nodup) (List.forall_iff_forall_mem.1 trivial)

theorem isSection_subTable {β : Type} {key : String} {table : β → Table} {o : Option β}
    (h : ∀ b ∈ o, IsSection (.table (table b))) : ∀ e ∈ subTable key table o, IsSection e.2 := by
  intro e he
  obtain ⟨b, hb, rfl⟩ := List.mem_map.1 he
  exact h b (Option.mem_toList.1 hb)

/-- A table whose values all stand under headers of their own. -/
theorem isSection_inner {inner : Table} (hinner : ∀ e ∈ inner, IsSection e.2)
    (hkeys : (inner.map (·.1)).Nodup) : IsSection (.table inner) := by
  show IsSection (.table ([] ++ inner))
  exact .table nofun hinner hkeys

/-- A slot table is a section with its sub-tables as sections. -/
theorem SlotTable.isSection_table {t : SlotTable} (ht : t.Sound) (hu : t.unknown = {})
    (hdevices : ∀ d ∈ t.devices, d.unknown = {} ∧ d.fields.settings.IsReadable) :
    IsSection (.table t.table) := by
  obtain ⟨hdisk, hpassthrough, hcdrom, hcloudInit⟩ := forall_devices_iff.1 hdevices
  have hnodup := (laidOut_table ht.unknown).nodup
  have hblocks : ∀ e ∈ t.blocks, IsSection e.2 := by
    unfold blocks
    simp only [List.forall_mem_append]
    refine ⟨⟨⟨?_, ?_⟩, ?_⟩, ?_⟩
    · exact isSection_subTable fun b hb => DiskBlock.isSection_table (ht.disk b hb) (hdisk b hb).1 (hdisk b hb).2
    · exact isSection_subTable fun b hb =>
        HostDiskBlock.isSection_table (ht.passthrough b hb) (hpassthrough b hb).1 (hpassthrough b hb).2
    · exact isSection_subTable fun b hb => CdromBlock.isSection_table (hcdrom b hb).1
    · exact isSection_subTable fun b hb => CloudInitBlock.isSection_table (hcloudInit b hb).1
  have htable : t.table = Table.ofEntries (setEntries [("ignore", .boolean t.ignore)]) ++ t.blocks := by
    rw [table_eq, hu, List.nil_append]
    exact congrArg _ (List.append_nil _)
  rw [htable] at hnodup ⊢
  refine .table ?_ hblocks hnodup
  intro e he
  obtain ⟨f, hf, rfl⟩ := List.mem_map.1 he
  obtain rfl := List.mem_singleton.1 (List.mem_of_mem_filter hf)
  trivial

/-- The tables of all buses are sections, bus by bus. -/
theorem BusTables.isSection_table {t : BusTables}
    (h : ∀ bus, ∀ e ∈ (t.onBus bus).entries, IsSection (.table e.2.table)) : IsSection (.table t.table) := by
  refine isSection_inner ?_ (by decide : (Bus.all.map Bus.label).Nodup)
  intro e he
  obtain ⟨bus, -, rfl⟩ := List.mem_map.1 he
  refine isSection_inner ?_ ?_
  · intro e he
    obtain ⟨f, hf, rfl⟩ := List.mem_map.1 he
    exact h bus f hf
  · have hkeys := (t.onBus bus).nodup_keys
    rw [List.map_map]
    exact hkeys

/-! ## The data of documents -/

namespace Document

/-- **The data of a document without unknown keys is a table in sections**, if its throughputs are read back
as they are printed. -/
theorem isSection_table {d : Document} (hd : d.Sound) (hu : ∀ u ∈ d.unknowns, u = {})
    (hs : ∀ s ∈ d.settings, s.IsReadable) : IsSection (.table d.table) := by
  obtain ⟨hudisk, hudisks⟩ := forall_unknowns_iff.1 hu
  obtain ⟨hsdisk, hsdisks⟩ := forall_settings_iff.1 hs
  have hentry : ∀ e ∈ d.disk, IsSection (.table e.table) := fun e he =>
    Entry.isSection_table (hd.disk e he) (hudisk e he) (hsdisk e he)
  have htables : ∀ b ∈ d.disks, IsSection (.table b.table) := by
    intro b hb
    refine BusTables.isSection_table fun bus e he => ?_
    have hmem : e.2 ∈ d.slotTables := mem_slotTables.2 ⟨b, hb, bus, e, he, rfl⟩
    exact SlotTable.isSection_table (hd.disks _ hmem) (hudisks _ hmem).1 fun a ha =>
      ⟨(hudisks _ hmem).2 a ha, hsdisks _ hmem a ha⟩
  unfold table
  refine isSection_inner ?_ ?_
  · rw [List.forall_mem_append]
    refine ⟨?_, isSection_subTable htables⟩
    cases hdisk : d.disk with
    | nil => exact nofun
    | cons e es =>
      intro f hf
      obtain rfl := List.mem_singleton.1 hf
      have harray : ((e :: es).map fun e => Value.table e.table) =
          (e.table :: es.map (·.table)).map Value.table := by
        rw [← List.map_cons, List.map_map]
        rfl
      show IsSection (.array ((e :: es).map fun e => Value.table e.table))
      rw [harray]
      refine .array ?_
      rw [← List.map_cons]
      intro u hu
      obtain ⟨e', he', rfl⟩ := List.mem_map.1 hu
      exact hentry e' (hdisk ▸ he')
  · -- either key may be missing, so the keys are only a part of these two
    have hkeys : ["disk", "disks"].Nodup := by decide
    have hdisk : ((if d.disk.isEmpty then [] else [("disk", Value.array (d.disk.map fun e => .table e.table))] :
        Table).map (·.1)).Sublist ["disk"] := by
      split
      · exact List.nil_sublist _
      · exact .refl _
    refine hkeys.sublist ?_
    rw [List.map_append]
    exact hdisk.append (keys_subTable ..)

/-- **The text of such a document is read as its data.** -/
theorem read_write {d : Document} (hd : d.Sound) (hu : ∀ u ∈ d.unknowns, u = {})
    (hs : ∀ s ∈ d.settings, s.IsReadable) : Document.read d.write = ofData d.table := by
  rw [read_eq]
  unfold write
  rw [readDocument_write (isSection_table hd hu hs)]

end Document

/-! ## What is written for a configuration -/

/-- The settings that are written for a variant. -/
def Variant.settings : Variant → Settings
  | .disk v => .ofOptions v.options
  | .passthrough d => .ofOptions d.options
  | .cdrom _ | .cloudInit _ | .delete | .unchanged => {}

/-- The throughputs that are written are those of the variant, or zero. -/
theorem Variant.throughputs_settings (v : Variant) :
    ∀ e ∈ v.settings.limits.throughputs, e.2.isZero = true ∨ e.2 ∈ v.throughputs := by
  have hdefault : ∀ e ∈ ({} : Settings).limits.throughputs, e.2.isZero = true := by decide
  cases v with
  | disk v => exact fun e he => .inr (List.mem_map_of_mem (f := (·.2)) he)
  | passthrough d => exact fun e he => .inr (List.mem_map_of_mem (f := (·.2)) he)
  | cdrom m => exact fun e he => .inl (hdefault e he)
  | cloudInit storage => exact fun e he => .inl (hdefault e he)
  | delete => exact fun e he => .inl (hdefault e he)
  | unchanged => exact fun e he => .inl (hdefault e he)

/-- A written entry has the settings of its device, and no unknown keys. -/
theorem Entry.of_ofVariant {s : Slot} {v : Variant} {e : Entry} (h : Entry.ofVariant s v = some e) :
    e.fields.settings = v.settings ∧ e.unknown = {} := by
  cases v with
  | disk v => cases h; exact ⟨rfl, rfl⟩
  | passthrough d => cases h; exact ⟨rfl, rfl⟩
  | cdrom m => cases m <;> cases h <;> exact ⟨rfl, rfl⟩
  | cloudInit storage => cases h; exact ⟨rfl, rfl⟩
  | delete => cases h
  | unchanged => cases h

theorem SlotTable.devices_ofVariant (v : Variant) : (ofVariant v).unknown = {} ∧
    ∀ d ∈ (ofVariant v).devices, d.fields.settings = v.settings ∧ d.unknown = {} := by
  cases v with
  | disk v => exact ⟨rfl, List.forall_mem_singleton.2 ⟨rfl, rfl⟩⟩
  | passthrough d => exact ⟨rfl, List.forall_mem_singleton.2 ⟨rfl, rfl⟩⟩
  | cdrom m => exact ⟨rfl, List.forall_mem_singleton.2 ⟨rfl, rfl⟩⟩
  | cloudInit storage => exact ⟨rfl, List.forall_mem_singleton.2 ⟨rfl, rfl⟩⟩
  | delete => exact ⟨rfl, List.forall_mem_nil _⟩
  | unchanged => exact ⟨rfl, List.forall_mem_nil _⟩

namespace Document

variable (surface : Surface) (c : Configuration)

/-- **What is written shows the settings of the configuration's variants, and no unknown keys.** -/
theorem of_encode :
    (∀ s ∈ (encode surface c).output.settings, ∃ slot, s = (c.get slot).settings) ∧
      ∀ u ∈ (encode surface c).output.unknowns, u = {} := by
  rw [forall_settings_iff, forall_unknowns_iff]
  have hdisk : ∀ e ∈ (encode surface c).output.disk, ∃ slot, Entry.ofVariant slot (c.get slot) = some e := by
    intro e he
    cases surface with
    | list =>
      obtain ⟨⟨slot, v⟩, hmem, hv⟩ := List.mem_filterMap.1 he
      rw [Configuration.mem_entries] at hmem
      exact ⟨slot, hmem ▸ hv⟩
    | expanded => cases he
  have htables : ∀ t ∈ (encode surface c).output.slotTables, ∃ slot, SlotTable.ofVariant (c.get slot) = t := by
    -- a table stands under its bus and index, and what was written there is of that slot
    intro t ht
    obtain ⟨b, hb, bus, e, he, rfl⟩ := mem_slotTables.1 ht
    cases surface with
    | list => cases hb
    | expanded =>
      obtain rfl := Option.some.inj hb
      rw [BusTables.encode_eq_ofSlots] at he
      obtain ⟨slot, -, -, hslot⟩ := BusTables.get?_onBus_ofSlots.1 (KeyMap.get?_eq_some_iff.2 he)
      exact ⟨slot, Option.some.inj hslot⟩
  refine ⟨⟨?_, ?_⟩, ?_, ?_⟩
  · intro e he
    obtain ⟨slot, hslot⟩ := hdisk e he
    exact ⟨slot, (Entry.of_ofVariant hslot).1⟩
  · intro t ht d hd
    obtain ⟨slot, rfl⟩ := htables t ht
    exact ⟨slot, ((SlotTable.devices_ofVariant _).2 d hd).1⟩
  · intro e he
    obtain ⟨slot, hslot⟩ := hdisk e he
    exact (Entry.of_ofVariant hslot).2
  · intro t ht
    obtain ⟨slot, rfl⟩ := htables t ht
    exact ⟨(SlotTable.devices_ofVariant _).1, fun d hd => ((SlotTable.devices_ofVariant _).2 d hd).2⟩

end Document

/-- A well-formed variant has finite throughputs. -/
theorem Variant.WellFormedOn.isFinite {bus : Bus} {v : Variant} (h : v.WellFormedOn bus) :
    ∀ x ∈ v.throughputs, x.isFinite = true := by
  have hbounds : ∀ {l : Limits}, l.AreBounds → ∀ x ∈ l.throughputs, x.isFinite = true := by
    rintro l ⟨h1, h2, h3, h4⟩
    exact List.forall_iff_forall_mem.1 ⟨h1.1, h2.1, h3.1, h4.1⟩
  cases v with
  | disk v => exact hbounds h.2.2.limits
  | passthrough d => exact hbounds h.2.limits
  | cdrom m => exact nofun
  | cloudInit storage => exact nofun
  | delete => exact nofun
  | unchanged => exact nofun

namespace Document

variable {c : Configuration}

/-- **The text that is written for a well-formed configuration is read as what was written**, to the signs of
zeros. -/
theorem read_write_encode (surface : Surface) (hc : ∀ s, (c.get s).WellFormedOn s.bus)
    (hread : ∀ x ∈ c.throughputs, IsReadBack x) :
    ∃ d, Document.read (encode surface c).output.write = .ok d ∧ (d == (encode surface c).output) = true := by
  obtain ⟨hsettings, hunknowns⟩ := of_encode surface c
  have hreadable : ∀ s ∈ (encode surface c).output.settings, s.IsReadable := by
    intro s hs e he hzero
    -- a throughput that no variant has is the default of the settings, and zeros are not printed
    obtain ⟨slot, rfl⟩ := hsettings s hs
    rcases (c.get slot).throughputs_settings e he with h | h
    · rw [h] at hzero
      cases hzero
    · exact hread _ (Configuration.mem_throughputs h)
  have hnumbers : (encode surface c).output.HoldsNumbers := by
    refine ⟨?_, ?_⟩
    · intro s hs e he
      obtain ⟨slot, rfl⟩ := hsettings s hs
      apply Binary64.isNaN_of_isFinite
      rcases (c.get slot).throughputs_settings e he with h | h
      · exact (Binary64.isBound_of_isZero h).1
      · exact (hc slot).isFinite _ h
    · intro u hu e he
      rw [hunknowns u hu] at he
      cases he
  have hspells : ¬ (encode surface c).output.SpellsDatetime := by
    rintro ⟨u, hu, e, he, -⟩
    rw [hunknowns u hu] at he
    cases he
  rw [read_write (sound_encode surface c) hunknowns hreadable]
  exact ((sound_encode surface c).comes_back_iff hnumbers).2 hspells

/-- **What is written for a well-formed configuration comes to it again**, with what was unchanged deleted and
nothing to report. -/
theorem decode_text_encode (surface : Surface) (hc : ∀ s, (c.get s).WellFormedOn s.bus)
    (hread : ∀ x ∈ c.throughputs, IsReadBack x) :
    ∃ d, Document.read (encode surface c).output.write = .ok d ∧ d.decode.report = [] ∧
      (d.decode.config == c.written) = true := by
  obtain ⟨d, htext, hbeq⟩ := read_write_encode surface hc hread
  obtain ⟨hconfig, hreport⟩ := decode_of_beq hbeq
  refine ⟨d, htext, ?_, ?_⟩
  · rw [hreport, report_decode_encode, List.flatMap_eq_nil_iff]
    intro s _
    rw [(Request.build_ofVariant_written (hc s)).2]
    rfl
  · have hwritten : (encode surface c).output.decode.config = c.written := by
      refine Configuration.ext_get fun s => ?_
      rw [get_decode_encode, (Request.build_ofVariant_written (hc s)).1, Configuration.get_written]
    rw [← hwritten]
    exact hconfig

end Document

end GuestDisks
