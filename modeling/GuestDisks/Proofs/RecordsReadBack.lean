import GuestDisks.Proofs.Rendering
import GuestDisks.Proofs.WrittenRecords

/-!
# The records of a document are read back

A record of a document is written as a table: its own fields where they are set, its sub-tables, then its
settings and its unknown keys. Reading that table gives the same own fields, and settings that agree. So
the record comes back exactly if the values under its unknown keys do.

* `DiskBlock.readsBack_iff`, `HostDiskBlock.readsBack_iff`, `CdromBlock.readsBack_iff`,
  `CloudInitBlock.readsBack_iff`: the sub-tables of a slot.
* `Entry.readsBack_iff`: the entries of the list.
* `SlotTable.readsBack_iff`: the table of a slot, with all its sub-tables.

`Sound` says of a record what reading leaves: unknown keys apart from known ones, and numbers in range.
-/

namespace GuestDisks

open Data Toml

/-- Only a map is a record with parts of its own. -/
theorem shape_of_splitRecord {what : String} {fields : List (RecordField Value)} {v : Value} {ms : Table}
    (h : splitRecord what fields (shape v) = .ok ms) : ∃ whole, shape v = .map ms whole := by
  unfold splitRecord at h
  split at h
  · rename_i whole hs
    obtain ⟨_, -, h⟩ := bind_eq_ok_iff.1 h
    obtain ⟨_, -, h⟩ := bind_eq_ok_iff.1 h
    obtain ⟨_, -, h⟩ := bind_eq_ok_iff.1 h
    cases h
    exact ⟨whole, hs⟩
  · cases h

/-! ## Sub-tables -/

namespace DiskBlock

/-- A block as reading leaves it. -/
def Sound (b : DiskBlock) : Prop := SoundRest (ownFields.map (·.key)) b.settings b.unknown

/-- A block that is read leaves over its settings and unknown keys. So do the records below. -/
theorem leavesRest_of_read {v : Value} {b : DiskBlock} (h : read v = .ok b) :
    LeavesRest (ownFields.map (·.key)) v b.settings b.unknown := by
  obtain ⟨ms, hms, h⟩ := bind_eq_ok_iff.1 h
  obtain ⟨whole, hshape⟩ := shape_of_splitRecord hms
  obtain ⟨storage, -, h⟩ := bind_eq_ok_iff.1 h
  obtain ⟨size, -, h⟩ := bind_eq_ok_iff.1 h
  obtain ⟨format, -, h⟩ := bind_eq_ok_iff.1 h
  obtain ⟨settings, hs, h⟩ := bind_eq_ok_iff.1 h
  obtain ⟨unknown, hu, h⟩ := bind_eq_ok_iff.1 h
  cases h
  exact ⟨ms, whole, hshape, hs, hu⟩

/-- Blocks agree if their own fields are the same and the rest agrees. So it is with the records below. -/
theorem beq_iff {b c : DiskBlock} : (b == c) = true ↔
    (b.storage = c.storage ∧ b.size = c.size ∧ b.format = c.format) ∧ (b.settings == c.settings) = true ∧
      (b.unknown == c.unknown) = true := by
  have h : (b == c) = (b.storage == c.storage && (b.size == c.size && (b.format == c.format &&
    (b.settings == c.settings && b.unknown == c.unknown)))) := rfl
  simp only [h, Bool.and_eq_true, beq_iff_eq, and_assoc]

/-- **A block is read back exactly if its unknown keys are.** -/
theorem readsBack_iff {b : DiskBlock} (hb : b.Sound) (hn : b.settings.limits.AreNumbers) :
    ReadsBack read (.table b.table) b ↔ b.unknown.AreReadBack := by
  have ht : LaidOut [] [("storage", .text b.storage), ("size", .text b.size), ("format", .text b.format)]
      (b.settings.leftOver b.unknown) b.table :=
    laidOut_settings (by decide : (ownFields.map (·.key)).Nodup)
      (by decide : ∀ k ∈ Settings.keys, k ∉ ownFields.map (·.key)) hb.unknown
  refine readsBack_iff_of_rest DiskBlock.settings DiskBlock.unknown hb hn ht.leaves leavesRest_of_read
    (fun heq => (beq_iff.1 heq).2.2) ?_
  intro settings unknown hs hsbeq hu hubeq
  obtain ⟨hstorage, hsize, hformat⟩ := List.forall_iff_forall_mem.2 ht.shows
  have hstorage := Shows.text hstorage
  have hsize := Shows.text hsize
  have hformat := Shows.text hformat
  have hfits : ownFields.Forall (·.Fits b.table) := ⟨.may hstorage, .may hsize, .may hformat⟩
  refine ⟨{ b with settings, unknown }, ?_, beq_iff.2 ⟨⟨rfl, rfl, rfl⟩, hsbeq, hubeq⟩⟩
  refine bind_eq_of_ok (splitRecord_eq_ok ht.nodup hfits _ fun _ _ => rfl) ?_
  exact bind_eq_of_ok hstorage <| bind_eq_of_ok hsize <| bind_eq_of_ok hformat <| bind_eq_of_ok hs <|
    bind_eq_of_ok hu rfl

end DiskBlock

namespace HostDiskBlock

/-- A block as reading leaves it. -/
def Sound (b : HostDiskBlock) : Prop := SoundRest (ownFields.map (·.key)) b.settings b.unknown

theorem leavesRest_of_read {v : Value} {b : HostDiskBlock} (h : read v = .ok b) :
    LeavesRest (ownFields.map (·.key)) v b.settings b.unknown := by
  obtain ⟨ms, hms, h⟩ := bind_eq_ok_iff.1 h
  obtain ⟨whole, hshape⟩ := shape_of_splitRecord hms
  obtain ⟨file, -, h⟩ := bind_eq_ok_iff.1 h
  obtain ⟨settings, hs, h⟩ := bind_eq_ok_iff.1 h
  obtain ⟨unknown, hu, h⟩ := bind_eq_ok_iff.1 h
  cases h
  exact ⟨ms, whole, hshape, hs, hu⟩

theorem beq_iff {b c : HostDiskBlock} : (b == c) = true ↔
    b.file = c.file ∧ (b.settings == c.settings) = true ∧ (b.unknown == c.unknown) = true := by
  have h : (b == c) = (b.file == c.file && (b.settings == c.settings && b.unknown == c.unknown)) := rfl
  simp only [h, Bool.and_eq_true, beq_iff_eq]

/-- **A block is read back exactly if its unknown keys are.** -/
theorem readsBack_iff {b : HostDiskBlock} (hb : b.Sound) (hn : b.settings.limits.AreNumbers) :
    ReadsBack read (.table b.table) b ↔ b.unknown.AreReadBack := by
  have ht : LaidOut [] [("file", .text b.file)] (b.settings.leftOver b.unknown) b.table :=
    laidOut_settings (by decide : (ownFields.map (·.key)).Nodup)
      (by decide : ∀ k ∈ Settings.keys, k ∉ ownFields.map (·.key)) hb.unknown
  refine readsBack_iff_of_rest HostDiskBlock.settings HostDiskBlock.unknown hb hn ht.leaves leavesRest_of_read
    (fun heq => (beq_iff.1 heq).2.2) ?_
  intro settings unknown hs hsbeq hu hubeq
  have hfile := Shows.text (ht.shows _ (List.mem_singleton.2 rfl))
  have hfits : ownFields.Forall (·.Fits b.table) := .may hfile
  refine ⟨{ b with settings, unknown }, ?_, beq_iff.2 ⟨rfl, hsbeq, hubeq⟩⟩
  refine bind_eq_of_ok (splitRecord_eq_ok ht.nodup hfits _ fun _ _ => rfl) ?_
  exact bind_eq_of_ok hfile <| bind_eq_of_ok hs <| bind_eq_of_ok hu rfl

end HostDiskBlock

namespace CdromBlock

theorem leavesUnknown_of_read {v : Value} {b : CdromBlock} (h : read v = .ok b) :
    LeavesUnknown (ownFields.map (·.key)) v b.unknown := by
  obtain ⟨ms, hms, h⟩ := bind_eq_ok_iff.1 h
  obtain ⟨whole, hshape⟩ := shape_of_splitRecord hms
  obtain ⟨iso, -, h⟩ := bind_eq_ok_iff.1 h
  obtain ⟨passthrough, -, h⟩ := bind_eq_ok_iff.1 h
  obtain ⟨unknown, hu, h⟩ := bind_eq_ok_iff.1 h
  cases h
  exact ⟨ms, whole, hshape, hu⟩

theorem beq_iff {b c : CdromBlock} : (b == c) = true ↔
    (b.iso = c.iso ∧ b.passthrough = c.passthrough) ∧ (b.unknown == c.unknown) = true := by
  have h : (b == c) = (b.iso == c.iso && (b.passthrough == c.passthrough && b.unknown == c.unknown)) := rfl
  simp only [h, Bool.and_eq_true, beq_iff_eq, and_assoc]

/-- **A block is read back exactly if its unknown keys are.** -/
theorem readsBack_iff {b : CdromBlock} (hb : b.unknown.SoundBeside (ownFields.map (·.key))) :
    ReadsBack read (.table b.table) b ↔ b.unknown.AreReadBack := by
  have ht : LaidOut [] [("iso", .text b.iso), ("passthrough", .boolean b.passthrough)]
      b.unknown.table b.table :=
    laidOut_unknown (by decide : (ownFields.map (·.key)).Nodup) hb
  refine readsBack_iff_of_unknown CdromBlock.unknown ht.leaves leavesUnknown_of_read
    (fun heq => (beq_iff.1 heq).2) ?_
  intro unknown hu hubeq
  obtain ⟨hiso, hpassthrough⟩ := List.forall_iff_forall_mem.2 ht.shows
  have hiso := Shows.text hiso
  have hpassthrough := Shows.boolean hpassthrough
  have hfits : ownFields.Forall (·.Fits b.table) := ⟨.may hiso, .may hpassthrough⟩
  refine ⟨{ b with unknown }, ?_, beq_iff.2 ⟨⟨rfl, rfl⟩, hubeq⟩⟩
  refine bind_eq_of_ok (splitRecord_eq_ok ht.nodup hfits _ fun _ _ => rfl) ?_
  exact bind_eq_of_ok hiso <| bind_eq_of_ok hpassthrough <| bind_eq_of_ok hu rfl

end CdromBlock

namespace CloudInitBlock

theorem leavesUnknown_of_read {v : Value} {b : CloudInitBlock} (h : read v = .ok b) :
    LeavesUnknown (ownFields.map (·.key)) v b.unknown := by
  obtain ⟨ms, hms, h⟩ := bind_eq_ok_iff.1 h
  obtain ⟨whole, hshape⟩ := shape_of_splitRecord hms
  obtain ⟨storage, -, h⟩ := bind_eq_ok_iff.1 h
  obtain ⟨unknown, hu, h⟩ := bind_eq_ok_iff.1 h
  cases h
  exact ⟨ms, whole, hshape, hu⟩

theorem beq_iff {b c : CloudInitBlock} : (b == c) = true ↔
    b.storage = c.storage ∧ (b.unknown == c.unknown) = true := by
  have h : (b == c) = (b.storage == c.storage && b.unknown == c.unknown) := rfl
  simp only [h, Bool.and_eq_true, beq_iff_eq]

/-- **A block is read back exactly if its unknown keys are.** -/
theorem readsBack_iff {b : CloudInitBlock} (hb : b.unknown.SoundBeside (ownFields.map (·.key))) :
    ReadsBack read (.table b.table) b ↔ b.unknown.AreReadBack := by
  have ht : LaidOut [] [("storage", .text b.storage)] b.unknown.table b.table :=
    laidOut_unknown (by decide : (ownFields.map (·.key)).Nodup) hb
  refine readsBack_iff_of_unknown CloudInitBlock.unknown ht.leaves leavesUnknown_of_read
    (fun heq => (beq_iff.1 heq).2) ?_
  intro unknown hu hubeq
  have hstorage := Shows.text (ht.shows _ (List.mem_singleton.2 rfl))
  have hfits : ownFields.Forall (·.Fits b.table) := .may hstorage
  refine ⟨{ b with unknown }, ?_, beq_iff.2 ⟨rfl, hubeq⟩⟩
  refine bind_eq_of_ok (splitRecord_eq_ok ht.nodup hfits _ fun _ _ => rfl) ?_
  exact bind_eq_of_ok hstorage <| bind_eq_of_ok hu rfl

end CloudInitBlock

/-! ## Entries of the list -/

/-- Fields agree if their settings do and the texts are the same. -/
theorem Fields.beq_iff {f g : Fields} : (f == g) = true ↔
    { f with settings := g.settings } = g ∧ (f.settings == g.settings) = true := by
  have h : (f == g) = (f.storage == g.storage && (f.size == g.size && (f.format == g.format &&
    (f.iso == g.iso && (f.diskFile == g.diskFile && f.settings == g.settings))))) := rfl
  obtain ⟨_, _, _, _, _, _⟩ := f
  obtain ⟨_, _, _, _, _, _⟩ := g
  simp only [h, Bool.and_eq_true, beq_iff_eq, Fields.mk.injEq, and_true, and_assoc]

namespace Entry

/-- An entry as reading leaves it. -/
def Sound (e : Entry) : Prop := SoundRest (ownFields.map (·.key)) e.fields.settings e.unknown

theorem leavesRest_of_read {v : Value} {e : Entry} (h : read v = .ok e) :
    LeavesRest (ownFields.map (·.key)) v e.fields.settings e.unknown := by
  obtain ⟨ms, hms, h⟩ := bind_eq_ok_iff.1 h
  obtain ⟨whole, hshape⟩ := shape_of_splitRecord hms
  obtain ⟨slot, -, h⟩ := bind_eq_ok_iff.1 h
  obtain ⟨kind, -, h⟩ := bind_eq_ok_iff.1 h
  obtain ⟨passthrough, -, h⟩ := bind_eq_ok_iff.1 h
  obtain ⟨storage, -, h⟩ := bind_eq_ok_iff.1 h
  obtain ⟨size, -, h⟩ := bind_eq_ok_iff.1 h
  obtain ⟨format, -, h⟩ := bind_eq_ok_iff.1 h
  obtain ⟨iso, -, h⟩ := bind_eq_ok_iff.1 h
  obtain ⟨diskFile, -, h⟩ := bind_eq_ok_iff.1 h
  obtain ⟨settings, hs, h⟩ := bind_eq_ok_iff.1 h
  obtain ⟨unknown, hu, h⟩ := bind_eq_ok_iff.1 h
  cases h
  exact ⟨ms, whole, hshape, hs, hu⟩

theorem beq_iff {e f : Entry} : (e == f) = true ↔
    (e.slot = f.slot ∧ e.kind = f.kind ∧ e.passthrough = f.passthrough) ∧ (e.fields == f.fields) = true ∧
      (e.unknown == f.unknown) = true := by
  have h : (e == f) = (e.slot == f.slot && (e.kind == f.kind && (e.passthrough == f.passthrough &&
    (e.fields == f.fields && e.unknown == f.unknown)))) := rfl
  simp only [h, Bool.and_eq_true, beq_iff_eq, and_assoc]

/-- **An entry is read back exactly if its unknown keys are.** -/
theorem readsBack_iff {e : Entry} (he : e.Sound) (hn : e.fields.settings.limits.AreNumbers) :
    ReadsBack read (.table e.table) e ↔ e.unknown.AreReadBack := by
  have ht : LaidOut [("slot", .text e.slot), ("type", .text e.kind)]
      [("passthrough", .boolean e.passthrough), ("storage", .text e.fields.storage),
        ("size", .text e.fields.size), ("format", .text e.fields.format), ("iso", .text e.fields.iso),
        ("disk_file", .text e.fields.diskFile)] (e.fields.settings.leftOver e.unknown) e.table :=
    laidOut_settings (by decide : (ownFields.map (·.key)).Nodup)
      (by decide : ∀ k ∈ Settings.keys, k ∉ ownFields.map (·.key)) he.unknown
  refine readsBack_iff_of_rest (fun e : Entry => e.fields.settings) Entry.unknown he hn ht.leaves
    leavesRest_of_read (fun heq => (beq_iff.1 heq).2.2) ?_
  intro settings unknown hs hsbeq hu hubeq
  obtain ⟨hslot, hkind⟩ := List.forall_iff_forall_mem.2 ht.gives
  obtain ⟨hpassthrough, hstorage, hsize, hformat, hiso, hfile⟩ := List.forall_iff_forall_mem.2 ht.shows
  have hslot : Members.required e.table "slot" text = .ok e.slot := Members.required_of_lookup hslot
  have hkind : Members.required e.table "type" text = .ok e.kind := Members.required_of_lookup hkind
  have hpassthrough := Shows.boolean hpassthrough
  have hstorage := Shows.text hstorage
  have hsize := Shows.text hsize
  have hformat := Shows.text hformat
  have hiso := Shows.text hiso
  have hfile := Shows.text hfile
  have hfits : ownFields.Forall (·.Fits e.table) :=
    ⟨.need hslot, .need hkind, .may hpassthrough, .may hstorage, .may hsize, .may hformat, .may hiso,
      .may hfile⟩
  refine ⟨{ e with fields := { e.fields with settings }, unknown }, ?_,
    beq_iff.2 ⟨⟨rfl, rfl, rfl⟩, Fields.beq_iff.2 ⟨rfl, hsbeq⟩, hubeq⟩⟩
  refine bind_eq_of_ok (splitRecord_eq_ok ht.nodup hfits _ fun _ _ => rfl) ?_
  exact bind_eq_of_ok hslot <| bind_eq_of_ok hkind <| bind_eq_of_ok hpassthrough <| bind_eq_of_ok hstorage <|
    bind_eq_of_ok hsize <| bind_eq_of_ok hformat <| bind_eq_of_ok hiso <| bind_eq_of_ok hfile <|
    bind_eq_of_ok hs <| bind_eq_of_ok hu rfl

end Entry

/-! ## Slot tables -/

/-- A sub-table that may be absent is looked up under its key. -/
theorem lookup_subTable {β : Type} (k key : String) (table : β → Table) (o : Option β) :
    (subTable key table o).lookup k = if k = key then o.map fun b => .table (table b) else none := by
  cases o with
  | none => exact (ite_self none).symm
  | some b => exact lookup_cons_eq_ite (key, Value.table (table b)) [] k

theorem keys_subTable {β : Type} (key : String) (table : β → Table) (o : Option β) :
    ((subTable key table o).map (·.1)).Sublist [key] := by
  cases o with
  | none => exact List.nil_sublist _
  | some b => exact .refl _

/-- **A sub-table that may be absent is read back if it is where it is there.** -/
theorem readsBack_subTable_iff {β : Type} [BEq β] {ms : Table} {key : String} {read : Reader Value β}
    {table : β → Table} {o : Option β} (h : ms.lookup key = o.map fun b => .table (table b)) :
    ReadsBack (fun ms => Members.orElse ms key (optional read) none) ms o ↔
      ∀ b ∈ o, ReadsBack read (.table (table b)) b := by
  unfold ReadsBack
  cases o with
  | none =>
    have hnone : Members.orElse ms key (optional read) none = .ok none := Members.orElse_of_none h
    exact ⟨fun _ => nofun, fun _ => ⟨none, hnone, rfl⟩⟩
  | some b =>
    have hsome : Members.orElse ms key (optional read) none = (read (.table (table b))).map some :=
      Members.orElse_of_lookup h
    simp only [hsome]
    constructor
    · rintro ⟨o', hread, hbeq⟩ _ ⟨⟩
      cases hb : read (.table (table b)) with
      | error fault => rw [hb] at hread; cases hread
      | ok b' =>
        rw [hb] at hread
        cases hread
        exact ⟨b', rfl, hbeq⟩
    · intro hall
      obtain ⟨b', hread, hbeq⟩ := hall b rfl
      rw [hread]
      exact ⟨some b', rfl, hbeq⟩

/-- What is there of a field that may be absent was read. -/
theorem exists_read_of_orElse {β : Type} {ms : Table} {key : String} {read : Reader Value β} {o : Option β}
    (h : Members.orElse ms key (optional read) none = .ok o) {b : β} (hb : b ∈ o) : ∃ v, read v = .ok b := by
  obtain rfl := Option.mem_def.1 hb
  unfold Members.orElse at h
  split at h
  · rename_i v hv
    have hoptional : optional read v = (read v).map some := by cases v <;> rfl
    rw [hoptional] at h
    cases hread : read v with
    | error fault => rw [hread] at h; cases h
    | ok b' =>
      rw [hread] at h
      cases h
      exact ⟨v, hread⟩
  · cases h

namespace SlotTable

/-- A slot table as reading leaves it. -/
structure Sound (t : SlotTable) : Prop where
  disk : ∀ b ∈ t.disk, b.Sound
  passthrough : ∀ b ∈ t.passthrough, b.Sound
  cdrom : ∀ b ∈ t.cdrom, b.unknown.SoundBeside (CdromBlock.ownFields.map (·.key))
  cloudInit : ∀ b ∈ t.cloudInit, b.unknown.SoundBeside (CloudInitBlock.ownFields.map (·.key))
  unknown : t.unknown.SoundBeside (ownFields.map (·.key))

/-- What reading a slot table looks up. -/
theorem of_read {v : Value} {t : SlotTable} (h : read v = .ok t) : ∃ ms whole, shape v = .map ms whole ∧
    Members.orElse ms "disk" (optional DiskBlock.read) none = .ok t.disk ∧
    Members.orElse ms "passthrough" (optional HostDiskBlock.read) none = .ok t.passthrough ∧
    Members.orElse ms "cdrom" (optional CdromBlock.read) none = .ok t.cdrom ∧
    Members.orElse ms "cloudinit" (optional CloudInitBlock.read) none = .ok t.cloudInit ∧
    Unknowns.ofRest (Members.without (ownFields.map (·.key)) ms) = .ok t.unknown := by
  obtain ⟨ms, hms, h⟩ := bind_eq_ok_iff.1 h
  obtain ⟨whole, hshape⟩ := shape_of_splitRecord hms
  obtain ⟨ignore, -, h⟩ := bind_eq_ok_iff.1 h
  obtain ⟨disk, hdisk, h⟩ := bind_eq_ok_iff.1 h
  obtain ⟨passthrough, hpassthrough, h⟩ := bind_eq_ok_iff.1 h
  obtain ⟨cdrom, hcdrom, h⟩ := bind_eq_ok_iff.1 h
  obtain ⟨cloudInit, hcloudInit, h⟩ := bind_eq_ok_iff.1 h
  obtain ⟨unknown, hu, h⟩ := bind_eq_ok_iff.1 h
  cases h
  exact ⟨ms, whole, hshape, hdisk, hpassthrough, hcdrom, hcloudInit, hu⟩

/-- A slot table that is read is as reading leaves one. -/
theorem sound_of_read {v : Value} {t : SlotTable} (h : read v = .ok t) : t.Sound := by
  obtain ⟨ms, whole, -, hdisk, hpassthrough, hcdrom, hcloudInit, hu⟩ := of_read h
  refine ⟨fun b hb => ?_, fun b hb => ?_, fun b hb => ?_, fun b hb => ?_, Unknowns.sound_of_ofRest hu⟩
  · obtain ⟨v, hv⟩ := exists_read_of_orElse hdisk hb
    exact (DiskBlock.leavesRest_of_read hv).sound
  · obtain ⟨v, hv⟩ := exists_read_of_orElse hpassthrough hb
    exact (HostDiskBlock.leavesRest_of_read hv).sound
  · obtain ⟨v, hv⟩ := exists_read_of_orElse hcdrom hb
    exact (CdromBlock.leavesUnknown_of_read hv).sound
  · obtain ⟨v, hv⟩ := exists_read_of_orElse hcloudInit hb
    exact (CloudInitBlock.leavesUnknown_of_read hv).sound

/-- Slot tables agree sub-table by sub-table. -/
theorem beq_iff {t s : SlotTable} : (t == s) = true ↔
    t.ignore = s.ignore ∧ (t.disk == s.disk) = true ∧ (t.passthrough == s.passthrough) = true ∧
      (t.cdrom == s.cdrom) = true ∧ (t.cloudInit == s.cloudInit) = true ∧ (t.unknown == s.unknown) = true := by
  have h : (t == s) = (t.ignore == s.ignore && (t.disk == s.disk && (t.passthrough == s.passthrough &&
    (t.cdrom == s.cdrom && (t.cloudInit == s.cloudInit && t.unknown == s.unknown))))) := rfl
  simp only [h, Bool.and_eq_true, beq_iff_eq]

/-- The sub-tables that are written. -/
def blocks (t : SlotTable) : Table :=
  subTable "disk" DiskBlock.table t.disk ++ subTable "passthrough" HostDiskBlock.table t.passthrough ++
    subTable "cdrom" CdromBlock.table t.cdrom ++ subTable "cloudinit" CloudInitBlock.table t.cloudInit

theorem keys_blocks (t : SlotTable) :
    (t.blocks.map (·.1)).Sublist ["disk", "passthrough", "cdrom", "cloudinit"] := by
  unfold blocks
  rw [List.map_append, List.map_append, List.map_append]
  exact (((keys_subTable ..).append (keys_subTable ..)).append (keys_subTable ..)).append (keys_subTable ..)

/-- A slot table is written with the mark to ignore it first, if it is set, and then its sub-tables. -/
theorem table_eq (t : SlotTable) : t.table =
    Table.ofEntries ([] ++ setEntries [("ignore", .boolean t.ignore)]) ++ (t.blocks ++ t.unknown.table) := by
  unfold table blocks
  simp only [List.append_assoc, List.nil_append]

section

variable {t : SlotTable} (hu : t.unknown.SoundBeside (ownFields.map (·.key)))

include hu

theorem apart_blocks : ∀ k ∈ ["disk", "passthrough", "cdrom", "cloudinit"], k ∉ t.unknown.table.map (·.1) := by
  intro k hk hk'
  have hown : ∀ k ∈ ["disk", "passthrough", "cdrom", "cloudinit"], k ∈ ownFields.map (·.key) := by decide
  rw [t.unknown.map_key_table] at hk'
  exact hu.apart k hk' (hown k hk)

/-- What is written shows the mark and leaves the rest apart from it. -/
theorem laidOut_table : LaidOut [] [("ignore", .boolean t.ignore)] (t.blocks ++ t.unknown.table) t.table := by
  rw [table_eq]
  refine laidOut (by decide : ["ignore"].Nodup) ?_ ?_
  · have hkeys : ["disk", "passthrough", "cdrom", "cloudinit"].Nodup := by decide
    refine nodup_append (hkeys.sublist t.keys_blocks) t.unknown.nodup_keys_table ?_
    intro k hk hk'
    exact apart_blocks hu k (t.keys_blocks.subset hk') hk
  · intro k hk
    rw [List.map_append, List.mem_append, t.unknown.map_key_table] at hk
    rcases hk with hk | hk
    · have hblocks : ∀ k ∈ ["disk", "passthrough", "cdrom", "cloudinit"], k ∉ ["ignore"] := by decide
      exact hblocks k (t.keys_blocks.subset hk)
    · have hignore : ∀ k ∈ ["ignore"], k ∈ ownFields.map (·.key) := by decide
      exact fun hk' => hu.apart k hk (hignore k hk')

/-- Without its own keys a written slot table is its unknown ones. -/
theorem without_table : Members.without (ownFields.map (·.key)) t.table = t.unknown.table := by
  -- the flag goes first, then the sub-tables
  have hkeys : ownFields.map (·.key) = ["ignore"] ++ ["disk", "passthrough", "cdrom", "cloudinit"] := rfl
  rw [hkeys, ← without_without]
  have hleft : Members.without ["ignore"] t.table = t.blocks ++ t.unknown.table := (laidOut_table hu).leaves
  rw [hleft]
  refine without_append t.keys_blocks.subset ?_
  exact fun k hk hk' => apart_blocks hu k hk' hk

/-- Sub-tables are looked up among those that are written. -/
theorem lookup_table {key : String} (hk : key ∈ ["disk", "passthrough", "cdrom", "cloudinit"]) :
    t.table.lookup key = t.blocks.lookup key := by
  have hne : key ≠ "ignore" := by
    rintro rfl
    exact absurd hk (by decide)
  have hignore : (Table.ofEntries ([] ++ setEntries [("ignore", .boolean t.ignore)])).lookup key = none := by
    rw [lookup_ofEntries]
    cases t.ignore with
    | false => rfl
    | true =>
      show Option.map Value.ofScalar (List.lookup key [("ignore", Scalar.boolean true)]) = none
      rw [lookup_cons_eq_ite, if_neg hne]; rfl
  rw [table_eq, List.lookup_append, hignore, Option.none_or, lookup_append_of_apart (apart_blocks hu key hk)]

end

/-- **A slot table is read back exactly if its unknown keys and those of its devices are.** -/
theorem readsBack_iff {t : SlotTable} (ht : t.Sound)
    (hn : ∀ d ∈ t.devices, d.fields.settings.limits.AreNumbers) :
    ReadsBack read (.table t.table) t ↔ t.unknown.AreReadBack ∧
      ∀ d ∈ t.devices, d.unknown.AreReadBack := by
  have hlookup : t.table.lookup "disk" = (t.disk.map fun b => .table b.table) ∧
      t.table.lookup "passthrough" = (t.passthrough.map fun b => .table b.table) ∧
      t.table.lookup "cdrom" = (t.cdrom.map fun b => .table b.table) ∧
      t.table.lookup "cloudinit" = (t.cloudInit.map fun b => .table b.table) := by
    refine ⟨?_, ?_, ?_, ?_⟩ <;> rw [lookup_table ht.unknown (by decide)] <;>
      simp [blocks, List.lookup_append, lookup_subTable]
  obtain ⟨hdisk, hpassthrough, hcdrom, hcloudInit⟩ := hlookup
  -- each sub-table is read back by itself, where there is one
  obtain ⟨hn1, hn2, -, -⟩ := forall_devices_iff.1 hn
  have hdisk : ReadsBack (fun ms => Members.orElse ms "disk" (optional DiskBlock.read) none) t.table t.disk ↔
      ∀ b ∈ t.disk, b.unknown.AreReadBack :=
    (readsBack_subTable_iff hdisk).trans (forall₂_congr fun b hb =>
      DiskBlock.readsBack_iff (ht.disk b hb) (hn1 b hb))
  have hpassthrough : ReadsBack (fun ms => Members.orElse ms "passthrough" (optional HostDiskBlock.read) none)
      t.table t.passthrough ↔ ∀ b ∈ t.passthrough, b.unknown.AreReadBack :=
    (readsBack_subTable_iff hpassthrough).trans (forall₂_congr fun b hb =>
      HostDiskBlock.readsBack_iff (ht.passthrough b hb) (hn2 b hb))
  have hcdrom : ReadsBack (fun ms => Members.orElse ms "cdrom" (optional CdromBlock.read) none)
      t.table t.cdrom ↔ ∀ b ∈ t.cdrom, b.unknown.AreReadBack :=
    (readsBack_subTable_iff hcdrom).trans (forall₂_congr fun b hb => CdromBlock.readsBack_iff (ht.cdrom b hb))
  have hcloudInit : ReadsBack (fun ms => Members.orElse ms "cloudinit" (optional CloudInitBlock.read) none)
      t.table t.cloudInit ↔ ∀ b ∈ t.cloudInit, b.unknown.AreReadBack :=
    (readsBack_subTable_iff hcloudInit).trans (forall₂_congr fun b hb =>
      CloudInitBlock.readsBack_iff (ht.cloudInit b hb))
  have hdevices : (∀ d ∈ t.devices, d.unknown.AreReadBack) ↔ (∀ b ∈ t.disk, b.unknown.AreReadBack) ∧
      (∀ b ∈ t.passthrough, b.unknown.AreReadBack) ∧ (∀ b ∈ t.cdrom, b.unknown.AreReadBack) ∧
      ∀ b ∈ t.cloudInit, b.unknown.AreReadBack := forall_devices_iff
  rw [hdevices, ← hdisk, ← hpassthrough, ← hcdrom, ← hcloudInit]
  constructor
  · rintro ⟨t', hread, hbeq⟩
    obtain ⟨ms, whole, hshape, h1, h2, h3, h4, hu⟩ := of_read hread
    cases hshape
    rw [without_table ht.unknown] at hu
    obtain ⟨-, e1, e2, e3, e4, eu⟩ := beq_iff.1 hbeq
    exact ⟨⟨t'.unknown, hu, eu⟩, ⟨t'.disk, h1, e1⟩, ⟨t'.passthrough, h2, e2⟩, ⟨t'.cdrom, h3, e3⟩,
      ⟨t'.cloudInit, h4, e4⟩⟩
  · rintro ⟨⟨unknown, hu, eu⟩, ⟨disk, h1, e1⟩, ⟨passthrough, h2, e2⟩, ⟨cdrom, h3, e3⟩, ⟨cloudInit, h4, e4⟩⟩
    rw [← without_table ht.unknown] at hu
    have hshow := (laidOut_table ht.unknown).shows
    have hignore := Shows.boolean (hshow _ (List.mem_singleton.2 rfl))
    have hfits : ownFields.Forall (·.Fits t.table) := ⟨.may hignore, .may h1, .may h2, .may h3, .may h4⟩
    refine ⟨⟨t.ignore, disk, passthrough, cdrom, cloudInit, unknown⟩, ?_,
      beq_iff.2 ⟨rfl, e1, e2, e3, e4, eu⟩⟩
    refine bind_eq_of_ok (splitRecord_eq_ok (laidOut_table ht.unknown).nodup hfits _ fun _ _ => rfl) ?_
    exact bind_eq_of_ok hignore <| bind_eq_of_ok h1 <| bind_eq_of_ok h2 <| bind_eq_of_ok h3 <|
      bind_eq_of_ok h4 <| bind_eq_of_ok hu rfl

end SlotTable

end GuestDisks
