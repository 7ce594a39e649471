import GuestDisks.Proofs.DocumentsReadBack
import GuestDisks.Proofs.UnusedFields

/-!
# Supplied keys are the keys that are written

Whether a key counts as absent is decided in two places: field by field where records are written, and
once more where the supplied keys are listed, for the warnings about unused fields. The two take the keys
in different orders, and agree on every value.

* `Settings.keys_entries_perm`: the keys that settings write are those that they list.
* `Settings.mem_keys_entries_iff`: they are the keys under which settings differ from those that say
  nothing. Throughputs differ as numbers do, so not-a-number and the infinities are supplied and `-0.0` is
  not.
* `Entry.mem_keys_table`: the keys of the table of an entry. Its unknown keys are written as well, and none
  of them is a known one if the entry was read or written for a variant (`Entry.IsMade.not_mem_unknown`).
-/

namespace GuestDisks

open Data Toml

variable {key : String}

/-- The keys of an object. -/
def Json.keys : Json → List String
  | .object members => members.map (·.1)
  | _ => []

/-! ## Absent values -/

/-- As numbers, both zeros and nothing else agree with the value of an absent throughput. -/
theorem Binary64.beq_zero (x : Binary64) : (x == zero) = x.isZero := by
  have hzero : zero.isNaN = false ∧ zero.isZero = true := by decide
  rw [beq_eq, hzero.1, hzero.2]
  cases hx : x.isZero with
  | true =>
    have hnumber : x.isNaN = false := isNaN_of_isFinite (isBound_of_isZero hx).1
    simp [hnumber]
  | false =>
    have hne : x ≠ zero := by
      rintro rfl
      rw [hzero.2] at hx
      cases hx
    simp [hne]

/-- The value that an absent key stands for where a scalar could be. -/
def Data.Scalar.absent : Scalar → Scalar
  | .text _ => .text ""
  | .boolean _ => .boolean false
  | .integer _ => .integer 0
  | .real _ => .real .zero

/-- A scalar is set if it does not agree with the value of an absent key. -/
theorem Data.Scalar.beq_absent (x : Scalar) :
    (Value.ofScalar x == Value.ofScalar x.absent) = !x.isSet := by
  cases x with
  | text s => exact (Bool.not_not _).symm
  | boolean b => cases b <;> rfl
  | integer n => exact (Bool.not_not _).symm
  | real x => exact (Binary64.beq_zero x).trans (Bool.not_not _).symm

/-! ## Keys by verdict -/

/-- The keys that a list of verdicts is in favour of. -/
def affirmed (es : List (String × Bool)) : List String := (es.filter (·.2)).map (·.1)

theorem affirmed_append (es fs : List (String × Bool)) : affirmed (es ++ fs) = affirmed es ++ affirmed fs := by
  unfold affirmed
  rw [List.filter_append, List.map_append]

/-- Entries that pass a test are those that the verdicts of the test are in favour of. -/
theorem affirmed_map {α : Type} (p : α → Bool) (es : List (String × α)) :
    affirmed (es.map fun e => (e.1, p e.2)) = (es.filter fun e => p e.2).map (·.1) := by
  unfold affirmed
  rw [List.filter_map, List.map_map]
  rfl

/-- Texts are written where they are not empty. -/
theorem keys_setEntries_texts (es : List (String × String)) :
    (setEntries (es.map fun e => (e.1, .text e.2))).map (·.1) = (es.filter fun e => e.2 != "").map (·.1) := by
  unfold setEntries
  rw [List.filter_map, List.map_map]
  rfl

/-! ## Settings -/

namespace Settings

/-- Whether each key is written, in the order in which settings write them. -/
def shown (s : Settings) : List (String × Bool) :=
  (s.front.map fun e => (e.1, e.2.isSet)) ++ [("backup", s.backup.isSome)] ++
    (s.back.map fun e => (e.1, e.2.isSet)) ++ s.limits.entries.map fun e => (e.1, e.2.isSet)

/-- Whether each key is listed as supplied, in the order in which settings list them. -/
def listed (s : Settings) : List (String × Bool) :=
  (s.texts.map fun e => (e.1, e.2 != "")) ++ s.flags ++
    (s.limits.throughputs.map fun e => (e.1, !e.2.isZero)) ++ s.limits.rates.map fun e => (e.1, e.2 != 0)

theorem keys_backupEntry (s : Settings) : s.backupEntry.map (·.1) = affirmed [("backup", s.backup.isSome)] := by
  unfold backupEntry
  cases s.backup <;> rfl

/-- The keys that are written are those that are shown. -/
theorem keys_entries_eq (s : Settings) : s.entries.map (·.1) = affirmed s.shown := by
  have h : s.entries = setEntries s.front ++ s.backupEntry ++ setEntries s.back ++
      setEntries s.limits.entries := rfl
  unfold shown
  rw [h, affirmed_append, affirmed_append, affirmed_append, affirmed_map, affirmed_map, affirmed_map,
    ← s.keys_backupEntry, List.map_append, List.map_append, List.map_append]
  rfl

/-- The keys that are supplied are those that are listed. -/
theorem populated_eq (s : Settings) : s.populated = affirmed s.listed := by
  unfold populated listed
  rw [affirmed_append, affirmed_append, affirmed_append, affirmed_map (fun v => v != ""),
    affirmed_map (fun v => !Binary64.isZero v), affirmed_map (fun v => v != 0)]
  rfl

/-- Flags are written in front of the serial number and the world wide name, and listed behind them. -/
theorem shown_perm (s : Settings) : s.shown.Perm s.listed := by
  have hswap : ([("discard", s.discard), ("replicate", s.replicate), ("backup", s.backup.isSome)] ++
      [("serial", s.serial != ""), ("wwn", s.wwn != "")]).Perm
      ([("serial", s.serial != ""), ("wwn", s.wwn != "")] ++
        [("discard", s.discard), ("replicate", s.replicate), ("backup", s.backup.isSome)]) :=
    List.perm_append_comm
  exact (hswap.append_left [("cache", s.cache != ""), ("asyncio", s.engine != "")]).append_right _

/-- **The keys that settings write are those that they list**, in another order. -/
theorem keys_entries_perm (s : Settings) : (s.entries.map (·.1)).Perm s.populated := by
  rw [keys_entries_eq, populated_eq]
  exact (s.shown_perm.filter _).map _

/-- No key is supplied twice. -/
theorem nodup_populated (s : Settings) : s.populated.Nodup :=
  s.populated_sublist.nodup (by decide)

theorem keys_json (s : Settings) : s.json.keys = s.entries.map (·.1) := by
  have h : s.json.keys = (s.entries.map fun e => (e.1, Json.ofScalar e.2)).map (·.1) := rfl
  rw [h, List.map_map]
  rfl

/-- Settings supply a key if they have a value under it that settings that say nothing do not have there. -/
def Supplies (s : Settings) (key : String) : Prop :=
  ∃ x, (key, x) ∈ s.scalars ∧
    ∀ y, (key, y) ∈ ({} : Settings).scalars → (Value.ofScalar x == Value.ofScalar y) = false

theorem nodup_scalars (s : Settings) : (s.scalars.map (·.1)).Nodup := nodup_keys.sublist s.keys_scalars

/-- Settings that say nothing have the value of an absent key under every key but that of the backup
setting, where they have none. -/
theorem absent_mem_scalars {s : Settings} {e : String × Scalar}
    (he : e ∈ s.front ++ s.back ++ s.limits.entries) : (e.1, e.2.absent) ∈ ({} : Settings).scalars := by
  have h : (s.front ++ s.back ++ s.limits.entries).map (fun e => (e.1, e.2.absent)) =
      ({} : Settings).front ++ ({} : Settings).back ++ ({} : Settings).limits.entries := rfl
  apply mem_scalars
  rw [← h]
  exact List.mem_map_of_mem he

theorem mem_scalars_iff {s : Settings} {e : String × Scalar} :
    e ∈ s.scalars ↔ e ∈ s.backupEntry ∨ e ∈ s.front ++ s.back ++ s.limits.entries := by
  unfold scalars
  simp only [List.mem_append]
  tauto

/-- **The keys that settings write are those that they supply.** -/
theorem mem_keys_entries_iff (s : Settings) : key ∈ s.entries.map (·.1) ↔ s.Supplies key := by
  rw [entries_eq_filter, mem_keys_filter]
  refine exists_congr fun x => and_congr_right fun hx => ?_
  rcases mem_scalars_iff.1 hx with hbackup | hother
  · -- the entry of the backup setting is written where there is one
    have hkey : key = "backup" := by
      obtain ⟨b, -, h⟩ := List.mem_map.1 hbackup
      exact (congrArg Prod.fst h).symm
    subst hkey
    refine iff_of_true rfl fun y hy => ?_
    exact absurd rfl (ne_of_lookup_eq_none (rfl : ({} : Settings).scalars.lookup "backup" = none) hy)
  · have hne : key ≠ "backup" := ne_of_lookup_eq_none (e := (key, x)) rfl hother
    have habsent := absent_mem_scalars hother
    rw [beq_false_of_ne hne, Bool.false_or]
    constructor
    · intro hset y hy
      rw [value_unique_of_nodup (nodup_scalars {}) habsent hy, Scalar.beq_absent, hset]
      rfl
    · intro h
      have hdiffers := h x.absent habsent
      rw [Scalar.beq_absent] at hdiffers
      simpa using hdiffers

/-- A key is supplied exactly if its value is not the default one. -/
theorem mem_populated_iff (s : Settings) : key ∈ s.populated ↔ s.Supplies key :=
  s.keys_entries_perm.mem_iff.symm.trans s.mem_keys_entries_iff

end Settings

/-! ## Entries of the list -/

namespace Entry

/-- How entries come about: one is read from a value of a document, or written for the variant of a slot. -/
def IsMade (e : Entry) : Prop := (∃ v, read v = .ok e) ∨ ∃ slot v, ofVariant slot v = some e

variable {e : Entry}

/-- No known key is among the unknown ones of an entry that was read or written. -/
theorem IsMade.not_mem_unknown (h : e.IsMade) (hkey : key ∈ ownFields.map (·.key) ++ Settings.keys) :
    key ∉ e.unknown.keys := by
  have hsound : e.Sound := by
    rcases h with ⟨v, hread⟩ | ⟨slot, v, hof⟩
    · exact (leavesRest_of_read hread).sound
    · exact sound_of_ofVariant hof
  exact fun hunknown => hsound.unknown.apart key hunknown hkey

/-- **The keys of the table of an entry.** The slot and the kind are always there, and all others where they
are supplied or unknown. -/
theorem mem_keys_table (e : Entry) : key ∈ e.table.map (·.1) ↔
    key ∈ ["slot", "type"] ∨ (key = "passthrough" ∧ e.passthrough = true) ∨ key ∈ e.fields.populated ∨
      key ∈ e.fields.settings.populated ∨ key ∈ e.unknown.keys := by
  have hflag : key ∈ (setEntries [("passthrough", .boolean e.passthrough)]).map (·.1) ↔
      key = "passthrough" ∧ e.passthrough = true := by
    unfold setEntries
    cases e.passthrough <;> simp [Scalar.isSet]
  have htexts : (setEntries (e.fields.texts.map fun f => (f.1, .text f.2))).map (·.1) = e.fields.populated :=
    keys_setEntries_texts e.fields.texts
  have htable : e.table = Table.ofEntries ([("slot", .text e.slot), ("type", .text e.kind)] ++
      (setEntries [("passthrough", .boolean e.passthrough)] ++
        setEntries (e.fields.texts.map fun f => (f.1, .text f.2))) ++ e.fields.settings.entries) ++
      e.unknown.table := by
    unfold setEntries
    rw [← List.filter_append]
    rfl
  rw [htable, List.map_append, map_key_ofEntries, Unknowns.map_key_table, List.map_append, List.map_append,
    List.map_append, htexts]
  simp only [List.mem_append, hflag, e.fields.settings.keys_entries_perm.mem_iff, or_assoc]
  rfl

/-- A key of the fields beside the settings is in the table if it is supplied or unknown. -/
theorem mem_keys_table_of_mem (e : Entry) (hkey : key ∈ Fields.keys) :
    key ∈ e.table.map (·.1) ↔ key ∈ e.fields.populated ∨ key ∈ e.unknown.keys := by
  have hapart : ∀ key ∈ Fields.keys, key ∉ ["slot", "type"] ∧ key ≠ "passthrough" ∧ key ∉ Settings.keys := by
    decide
  obtain ⟨halways, hflag, hsettings⟩ := hapart key hkey
  have hpopulated : key ∉ e.fields.settings.populated := fun h =>
    hsettings (e.fields.settings.populated_subset h)
  rw [mem_keys_table]
  simp only [halways, hflag, hpopulated, false_and, false_or]

end Entry

/-! ## Supplied and written -/

/-- **Supplied means written.** Settings write each key that they list as supplied and no other, as JSON and
as TOML; no key is listed twice, and the list is of the keys under which they differ from settings that say
nothing. An entry writes those of its own texts that it lists as supplied. Its unknown keys are written
beside them, so one of these that is spelled like a known key is written as well; there is none in an entry
that was read or written for a variant. -/
theorem supplied_is_written (s : Settings) (e : Entry) :
    ((∀ key, key ∈ s.json.keys ↔ key ∈ s.populated) ∧
      (∀ key, key ∈ (Table.ofEntries s.entries).map (·.1) ↔ key ∈ s.populated) ∧
      s.populated.Nodup ∧ ∀ key, key ∈ s.populated ↔ s.Supplies key) ∧
    (∀ key ∈ Fields.keys, key ∈ e.table.map (·.1) ↔ key ∈ e.fields.populated ∨ key ∈ e.unknown.keys) ∧
    (e.IsMade → ∀ key ∈ Fields.keys, key ∈ e.table.map (·.1) ↔ key ∈ e.fields.populated) := by
  have hentries : ∀ key, key ∈ s.entries.map (·.1) ↔ key ∈ s.populated := fun _ => s.keys_entries_perm.mem_iff
  refine ⟨⟨?json, ?toml, s.nodup_populated, fun _ => s.mem_populated_iff⟩,
    fun _ => e.mem_keys_table_of_mem, ?made⟩
  case json =>
    rw [s.keys_json]
    exact hentries
  case toml =>
    rw [map_key_ofEntries]
    exact hentries
  case made =>
    intro hmade key hkey
    have hunknown : key ∉ e.unknown.keys := by
      have hown : ∀ key ∈ Fields.keys, key ∈ Entry.ownFields.map (·.key) ++ Settings.keys := by decide
      exact hmade.not_mem_unknown (hown key hkey)
    rw [e.mem_keys_table_of_mem hkey, or_iff_left hunknown]

/-- Not-a-number and infinity are supplied and `-0.0` is not; of an entry with an empty storage pool and an
unknown key, the texts that are not empty are written. -/
theorem supplied_is_written_corners :
    let s : Settings := { limits := { (.unlimited 0 : FlatLimits Int) with
      mbpsReadBurst := .nan true, mbpsReadConcurrent := .infinity true, mbpsWriteBurst := .zeroOf true } }
    let e : Entry := {
      slot := "scsi0", kind := "disk", fields := { size := "4G", diskFile := "/dev/sdb" },
      unknown := .ofList [("note", .integer 1)] }
    (∀ key, key ∈ s.json.keys ↔ key ∈ ["mbps_r_burst", "mbps_r_concurrent"]) ∧
    e.IsMade ∧ ∀ key ∈ Fields.keys, key ∈ e.table.map (·.1) ↔ key ∈ ["size", "disk_file"] := by
  intro s e
  have hsettings : s.populated = ["mbps_r_burst", "mbps_r_concurrent"] := by decide
  have hfields : e.fields.populated = ["size", "disk_file"] := by decide
  have hmade : e.IsMade := .inl ⟨.table [("slot", .string "scsi0"), ("type", .string "disk"),
    ("storage", .string ""), ("size", .string "4G"), ("disk_file", .string "/dev/sdb"),
    ("note", .integer 1)], rfl⟩
  obtain ⟨⟨hjson, -⟩, -, htable⟩ := supplied_is_written s e
  rw [hsettings] at hjson
  rw [hfields] at htable
  exact ⟨hjson, hmade, htable hmade⟩

end GuestDisks
