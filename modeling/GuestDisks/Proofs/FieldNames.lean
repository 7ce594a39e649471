import GuestDisks.Proofs.Separation
import GuestDisks.Proofs.Surfaces
import GuestDisks.Proofs.TableReading
import GuestDisks.Proofs.UnusedFields

/-!
# The field names in diagnostics of slot tables

The sub-tables of a slot table are checked as requests, whose fields have the names that they have in a
list. A diagnostic should name a key that can be written where its reader would look for it, in the
sub-table for the device. All do but one: the file of a host disk is `disk_file` in a list and `file` in
its sub-table, and if it is missing, `disk_file` is asked for.

* `Description.defined_or_missing_file`: the names in what is found about a device are keys of its
  sub-table, unless the file of a host disk is missing.
* `BusTables.field_names_exact`: so it is with the diagnostics about a slot.
-/

namespace GuestDisks

open Assignment Data

/-- The field names that a finding carries. The key of an unknown field is none of a device. -/
def Finding.fields : Finding → List String
  | .error (.invalidValue field _ _) => [field]
  | .error (.missingField field) => [field]
  | .error (.conflictingFields a b) => [a, b]
  | .error (.duplicateSlot _) | .error (.unsupportedOnBus _ _) | .error (.unknownSlot _ _)
  | .error .conflictingBlocks => []
  | .warning (.fieldIgnored field _) => [field]
  | .warning (.unsupportedOnBus field _) => [field]
  | .warning (.unknownField _) => []

/-- The keys that a sub-table defines. -/
def Block.keys : Block → List String
  | disk => DiskBlock.ownFields.map (·.key) ++ Settings.keys
  | passthrough => HostDiskBlock.ownFields.map (·.key) ++ Settings.keys
  | cdrom => CdromBlock.ownFields.map (·.key)
  | cloudInit => CloudInitBlock.ownFields.map (·.key)

/-! ## Problems -/

theorem Problem.IsOfField.fields {field : String} {p : Problem} (h : p.IsOfField field) :
    (Finding.error p).fields = [field] := by
  obtain ⟨value, reason, rfl⟩ := h
  rfl

theorem Check.mem_missing {field value : String} {p : Problem} :
    p ∈ missing field value ↔ value = "" ∧ p = .missingField field := by
  unfold missing
  split
  · rename_i h
    simp [h]
  · rename_i h
    simp [h]

theorem Check.isOfField_of_mem_rejected {α : Type} {field value reason : String} {e : Except Problem α}
    {p : Problem} (h : p ∈ rejected field value reason e) : p.IsOfField field := by
  unfold rejected at h
  split at h
  · cases h
  · exact ⟨value, reason, List.mem_singleton.1 h⟩

theorem FlatLimits.isOfField_of_mem_problems {f : FlatLimits Int} {p : Problem} (h : p ∈ f.problems) :
    ∃ field ∈ f.throughputs.map (·.1) ++ f.rates.map (·.1), p.IsOfField field := by
  unfold problems at h
  rcases List.mem_append.1 h with h | h
  · obtain ⟨e, he, rfl⟩ := List.mem_map.1 h
    have hmem : e.1 ∈ f.throughputs.map (·.1) := List.mem_map_of_mem (List.mem_filter.1 he).1
    exact ⟨e.1, List.mem_append_left _ hmem, _, _, rfl⟩
  · obtain ⟨e, he, rfl⟩ := List.mem_map.1 h
    have hmem : e.1 ∈ f.rates.map (·.1) := List.mem_map_of_mem (List.mem_filter.1 he).1
    exact ⟨e.1, List.mem_append_right _ hmem, _, _, rfl⟩

/-- Each problem with settings is with the value of one of their keys. -/
theorem Settings.isOfField_of_mem_problems {s : Settings} {p : Problem} (h : p ∈ s.problems) :
    ∃ field ∈ keys, p.IsOfField field := by
  unfold problems at h
  simp only [List.mem_append] at h
  rcases h with (((h | h) | h) | h) | h
  · exact ⟨"cache", by decide, Check.isOfField_of_mem_rejected h⟩
  · exact ⟨"asyncio", by decide, Check.isOfField_of_mem_rejected h⟩
  · exact ⟨"serial", by decide, Check.isOfField_of_mem_rejected h⟩
  · exact ⟨"wwn", by decide, Check.isOfField_of_mem_rejected h⟩
  · obtain ⟨field, hfield, hp⟩ := FlatLimits.isOfField_of_mem_problems (List.mem_of_mem_take h)
    exact ⟨field, mem_keys_of_limits hfield, hp⟩

/-- A problem names no field but those with some keys. -/
def Problem.Names (keys : List String) (p : Problem) : Prop := (Finding.error p).fields ⊆ keys

section Names

variable {keys : List String} {p : Problem}

theorem Problem.IsOfField.names {field : String} (h : p.IsOfField field) (hk : field ∈ keys) : p.Names keys := by
  unfold Problem.Names
  rw [h.fields]
  exact List.cons_subset.2 ⟨hk, List.nil_subset _⟩

theorem Problem.names_missingField {field : String} (hk : field ∈ keys) : (missingField field).Names keys :=
  List.cons_subset.2 ⟨hk, List.nil_subset _⟩

theorem Check.names_of_mem_missing {field value : String} (hk : field ∈ keys) (h : p ∈ missing field value) :
    p.Names keys := by
  obtain ⟨-, rfl⟩ := mem_missing.1 h
  exact Problem.names_missingField hk

/-- Problems with settings name keys of settings. -/
theorem Settings.names_of_mem_problems {s : Settings} (hk : Settings.keys ⊆ keys) (h : p ∈ s.problems) :
    p.Names keys := by
  obtain ⟨field, hfield, hof⟩ := isOfField_of_mem_problems h
  exact hof.names (hk hfield)

namespace Fields

variable {f : Fields}

/-- What is wrong with a managed disk names keys of its sub-table. -/
theorem names_of_mem_volumeProblems (h : p ∈ f.volumeProblems) : p.Names Block.disk.keys := by
  have hsize : "size" ∈ Block.disk.keys := by decide
  unfold volumeProblems at h
  simp only [List.mem_append] at h
  rcases h with ((h | h) | h) | h
  · exact Check.names_of_mem_missing (by decide) h
  · split at h
    · obtain rfl := List.mem_singleton.1 h
      exact Problem.names_missingField hsize
    · exact (Check.isOfField_of_mem_rejected h).names hsize
  · exact (Check.isOfField_of_mem_rejected h).names (by decide)
  · exact Settings.names_of_mem_problems (List.subset_append_right ..) h

/-- What is wrong with a host disk does too, unless it is the file that is missing. -/
theorem names_of_mem_hostDiskProblems (h : p ∈ f.hostDiskProblems) :
    p.Names Block.passthrough.keys ∨ (f.diskFile = "" ∧ p = .missingField "disk_file") := by
  unfold hostDiskProblems at h
  rcases List.mem_append.1 h with h | h
  · exact .inr (Check.mem_missing.1 h)
  · exact .inl (Settings.names_of_mem_problems (List.subset_append_right ..) h)

theorem names_of_mem_mediumProblems {passthrough : Bool} (h : p ∈ f.mediumProblems passthrough) :
    p.Names Block.cdrom.keys := by
  unfold mediumProblems at h
  split at h
  · cases h
  · split at h
    · -- an image and the host's drive exclude each other, and both keys are there
      obtain rfl := List.mem_singleton.1 h
      exact List.Subset.refl _
    · exact (Check.isOfField_of_mem_rejected h).names (by decide)

theorem names_of_mem_cloudInitProblems {bus : Bus} (h : p ∈ f.cloudInitProblems bus) :
    p.Names Block.cloudInit.keys := by
  unfold cloudInitProblems at h
  rcases List.mem_append.1 h with h | h
  · split at h
    · obtain rfl := List.mem_singleton.1 h
      exact List.nil_subset _
    · cases h
  · exact Check.names_of_mem_missing (by decide) h

end Fields

end Names

/-! ## What is found about a device -/

namespace Description

/-- A host disk without a file. -/
def lacksFile : Description → Bool
  | hostDisk file _ => file == ""
  | _ => false

variable {s : Slot} {d : Description} {field : String}

/-- What is wrong with a device names keys of its sub-table, or the file of a host disk is missing. -/
theorem defined_of_mem_problems {p : Problem} (hp : p ∈ (d.request s).problems)
    (hf : field ∈ (Finding.error p).fields) :
    field ∈ d.block.keys ∨ (d.lacksFile = true ∧ p = .missingField "disk_file") := by
  cases d with
  | disk storage size format settings =>
    have hproblems : p ∈ Fields.volumeProblems { storage, size, format, settings } := hp
    exact .inl (Fields.names_of_mem_volumeProblems hproblems hf)
  | hostDisk file settings =>
    have hproblems : p ∈ Fields.hostDiskProblems { diskFile := file, settings } := hp
    rcases Fields.names_of_mem_hostDiskProblems hproblems with hnames | ⟨hempty, hmissing⟩
    · exact .inl (hnames hf)
    · exact .inr ⟨beq_iff_eq.2 hempty, hmissing⟩
  | drive iso passthrough =>
    have hproblems : p ∈ Fields.mediumProblems passthrough { iso } := hp
    exact .inl (Fields.names_of_mem_mediumProblems hproblems hf)
  | cloudInit storage =>
    have hproblems : p ∈ Fields.cloudInitProblems s.bus { storage } := hp
    exact .inl (Fields.names_of_mem_cloudInitProblems hproblems hf)

/-- A key that the device uses is one of its sub-table, but for two of a host disk. -/
theorem mem_keys_of_uses (h : field ∈ (d.request s).uses) (hfile : field ≠ "disk_file")
    (hflag : field ≠ "passthrough") : field ∈ d.block.keys := by
  cases d with
  | disk storage size format settings => exact h
  | drive iso passthrough => exact h
  | cloudInit storage => exact h
  | hostDisk file settings =>
    have huses : field ∈ ["disk_file", "passthrough"] ++ Settings.keys := h
    rcases List.mem_append.1 huses with h | h
    · rcases List.mem_cons.1 h with h | h
      · exact absurd h hfile
      · exact absurd (List.mem_singleton.1 h) hflag
    · exact List.subset_append_right _ _ h

/-- What is warned about is a flag that the bus lacks, and a key of the sub-table. -/
theorem defined_of_warning {n : Notice} (hn : .warning n ∈ (d.request s).build.findings) :
    n.key ∈ d.block.keys := by
  have hmem : Finding.warning n ∈ (d.request s).build.warningsOf n.key :=
    List.mem_filter.2 ⟨hn, decide_eq_true rfl⟩
  rw [Request.warningsOf_build, Request.warnings] at hmem
  by_cases hs : n.key ∈ (d.request s).supplied
  · have hu : n.key ∈ (d.request s).uses := d.supplied_subset s hs
    by_cases hbus : n.key ∈ (d.request s).unsupported
    · have hflag := (d.request s).unsupported_subset hbus
      have hnames : ∀ key ∈ ["emulatessd", "iothread", "readonly"],
          key ≠ "disk_file" ∧ key ≠ "passthrough" := by decide
      obtain ⟨hfile, hpassthrough⟩ := hnames _ hflag
      exact mem_keys_of_uses hu hfile hpassthrough
    · rw [if_neg (not_not.2 hs), if_neg (not_not.2 hu), if_neg hbus] at hmem
      cases hmem
  · rw [if_pos hs] at hmem
    cases hmem

/-- **What is found about a device names keys of its sub-table**, or that the file of a host disk is
missing, under its name in a list. -/
theorem defined_or_missing_file {f : Finding} (hf : f ∈ (d.request s).build.findings)
    (hfield : field ∈ f.fields) :
    field ∈ d.block.keys ∨ (d.lacksFile = true ∧ f = .error (.missingField "disk_file")) := by
  cases f with
  | error p =>
    have hp : p ∈ (d.request s).build.problems := List.mem_filterMap.2 ⟨.error p, hf, rfl⟩
    rw [Request.problems_build] at hp
    exact (defined_of_mem_problems hp hfield).imp_right fun h => ⟨h.1, congrArg Finding.error h.2⟩
  | warning n =>
    left
    have hkey : field = n.key := by
      cases n with
      | fieldIgnored key device => exact List.mem_singleton.1 hfield
      | unsupportedOnBus key bus => exact List.mem_singleton.1 hfield
      | unknownField key => cases hfield
    rw [hkey]
    exact defined_of_warning hf

/-- A host disk without a file is reported to lack it under a name that its sub-table does not define. -/
theorem mem_findings_of_lacksFile (h : d.lacksFile = true) (s : Slot) :
    .error (.missingField "disk_file") ∈ (d.request s).build.findings ∧ "disk_file" ∉ d.block.keys := by
  cases d with
  | hostDisk file settings =>
    have hempty : file = "" := beq_iff_eq.1 h
    have hproblem : Problem.missingField "disk_file" ∈ ((hostDisk file settings).request s).build.problems := by
      rw [Request.problems_build]
      exact List.mem_append_left _ (Check.mem_missing.2 ⟨hempty, rfl⟩)
    obtain ⟨f, hf, hp⟩ := List.mem_filterMap.1 hproblem
    have hundefined : "disk_file" ∉ Block.passthrough.keys := by decide
    refine ⟨?_, hundefined⟩
    cases f with
    | error p => cases hp; exact hf
    | warning n => cases hp
  | _ => cases h

end Description

/-! ## Diagnostics about a slot -/

namespace SlotTable

variable {s : Slot} {t : SlotTable} {b : BlockRequest} {field : String}

/-- A key of the sub-table of a slot table that has one only. -/
def Defines (t : SlotTable) (field : String) : Prop :=
  t.count = 1 ∧ (t.disk.isSome ∧ field ∈ Block.disk.keys ∨ t.passthrough.isSome ∧ field ∈ Block.passthrough.keys ∨
    t.cdrom.isSome ∧ field ∈ Block.cdrom.keys ∨ t.cloudInit.isSome ∧ field ∈ Block.cloudInit.keys)

/-- A slot table asks for a host disk, and for nothing else, without the file. -/
def LacksFile (t : SlotTable) : Prop :=
  t.ignore = false ∧ t.disk = none ∧ t.cdrom = none ∧ t.cloudInit = none ∧
    ∃ b, t.passthrough = some b ∧ b.file = ""

/-- The sub-table is the one that the device asked for stands in. -/
theorem defines_iff (hb : t.devices = [b]) : t.Defines field ↔ field ∈ b.block.keys := by
  have hkeys : (∃ b ∈ t.devices, field ∈ b.block.keys) ↔
      t.disk.isSome ∧ field ∈ Block.disk.keys ∨ t.passthrough.isSome ∧ field ∈ Block.passthrough.keys ∨
        t.cdrom.isSome ∧ field ∈ Block.cdrom.keys ∨ t.cloudInit.isSome ∧ field ∈ Block.cloudInit.keys := by
    unfold devices
    simp [or_and_right, exists_or, Option.isSome_iff_exists]
  unfold Defines
  rw [← hkeys, hb, and_iff_right (count_of_single hb)]
  simp

/-- Where one device is asked for and it is a host disk, its sub-table is the only one. -/
theorem only_passthrough (hd : t.devices = [b]) (hb : b.block = .passthrough) :
    t.disk = none ∧ t.cdrom = none ∧ t.cloudInit = none ∧
      ∃ c, t.passthrough = some c ∧ c.file = b.fields.diskFile := by
  unfold devices at hd
  cases hdisk : t.disk <;> cases hpassthrough : t.passthrough <;> cases hcdrom : t.cdrom <;>
    cases hcloudInit : t.cloudInit <;> simp [hdisk, hpassthrough, hcdrom, hcloudInit] at hd <;>
    subst hd <;> simp at hb ⊢

theorem lacksFile_iff : t.LacksFile ↔
    t.ignore = false ∧ ∃ b d, t.devices = [b] ∧ Description.block d = b.block ∧
      (∀ s, d.request s = b.on s) ∧ d.lacksFile = true := by
  unfold LacksFile
  refine and_congr_right fun _ => ?_
  constructor
  · rintro ⟨hdisk, hcdrom, hcloudInit, c, hpassthrough, hfile⟩
    have hdevices : t.devices =
        [⟨.passthrough, true, { diskFile := c.file, settings := c.settings }, c.unknown⟩] := by
      unfold devices
      rw [hdisk, hcdrom, hcloudInit, hpassthrough]; rfl
    exact ⟨_, .hostDisk c.file c.settings, hdevices, rfl, fun _ => rfl, beq_iff_eq.2 hfile⟩
  · rintro ⟨b, d, hdevices, hblock, hrequest, hlacks⟩
    cases d with
    | hostDisk file settings =>
      obtain ⟨hdisk, hcdrom, hcloudInit, c, hpassthrough, hfile⟩ := only_passthrough hdevices hblock.symm
      have hfields : file = b.fields.diskFile := congrArg (·.fields.diskFile) (hrequest ⟨.ide, 0, by decide⟩)
      have hempty : file = "" := beq_iff_eq.1 hlacks
      refine ⟨hdisk, hcdrom, hcloudInit, c, hpassthrough, ?_⟩
      rw [hfile, ← hfields, hempty]
    | _ => cases hlacks

/-- What is reported about a slot table names keys of the sub-table for its device, or that the file of
a host disk is missing. -/
theorem defines_or_lacksFile {d : Diagnostic} (hd : d ∈ t.reports s) (hfield : field ∈ d.finding.fields) :
    t.Defines field ∨ (t.LacksFile ∧ d.finding = .error (.missingField "disk_file")) := by
  obtain ⟨f, hf, rfl⟩ := List.mem_map.1 hd
  rcases List.mem_append.1 hf with hf | hf
  · obtain ⟨key, -, rfl⟩ := List.mem_map.1 hf
    cases hfield
  · rcases t.wanted_cases s with ⟨-, -, hw⟩ | ⟨-, -, hw⟩ | ⟨b, hb, hi, hw⟩ | ⟨-, -, hw⟩
    · rw [hw] at hf
      cases hf
    · rw [hw] at hf
      cases hf
    · rw [hw, Option.elim_some] at hf
      have hmem : b ∈ t.devices := by rw [hb]; exact List.mem_singleton_self b
      obtain ⟨d, hblock, hrequest⟩ := exists_description hmem
      rw [← hrequest] at hf
      rcases Description.defined_or_missing_file hf hfield with h | ⟨hlacks, hmissing⟩
      · rw [hblock] at h
        exact .inl ((defines_iff hb).2 h)
      · exact .inr ⟨lacksFile_iff.2 ⟨hi, b, d, hb, hblock, hrequest, hlacks⟩, hmissing⟩
    · rw [hw] at hf
      obtain rfl := List.mem_singleton.1 hf
      cases hfield

/-- Of a host disk without a file it is reported, under a name that is no key of the sub-table. -/
theorem reports_of_lacksFile (h : t.LacksFile) (s : Slot) :
    ⟨s.name, .error (.missingField "disk_file")⟩ ∈ t.reports s ∧ ¬t.Defines "disk_file" := by
  obtain ⟨hi, b, d, hb, hblock, hrequest, hlacks⟩ := lacksFile_iff.1 h
  obtain ⟨hmem, hundefined⟩ := Description.mem_findings_of_lacksFile hlacks s
  have hw : t.wanted s = some (b.on s).build :=
    wanted_of_single (count_of_single hb) ((asksFor_of_single hb).2 rfl) hi
  constructor
  · refine List.mem_map.2 ⟨_, List.mem_append_right _ ?_, rfl⟩
    rw [hw, Option.elim_some, ← hrequest]
    exact hmem
  · rw [defines_iff hb, ← hblock]
    exact hundefined

end SlotTable

namespace BusTables

/-- A key of the sub-table for the device that the table of a slot asks for. -/
def Defines (t : BusTables) (s : Slot) (field : String) : Prop :=
  ∃ table, t.tableOf s = some table ∧ table.Defines field

/-- The table of a slot asks for a host disk without its file. -/
def LacksFile (t : BusTables) (s : Slot) : Prop := ∃ table, t.tableOf s = some table ∧ table.LacksFile

/-- **Diagnostics about a slot name keys of its sub-table**, exactly if the slot does not ask for a host
disk without its file. The one name that is no such key is `disk_file`, which is then said to be
missing. -/
theorem field_names_exact (t : BusTables) (s : Slot) :
    (∀ d ∈ t.decode.1.report, d.place = s.name → ∀ field ∈ d.finding.fields,
      t.Defines s field ∨ (t.LacksFile s ∧ d.finding = .error (.missingField "disk_file"))) ∧
    ((∀ d ∈ t.decode.1.report, d.place = s.name → ∀ field ∈ d.finding.fields, t.Defines s field) ↔
      ¬t.LacksFile s) := by
  have habout : ∀ d, d ∈ t.decode.1.report ∧ d.place = s.name ↔ d ∈ t.reportsOf s := by
    intro d
    rw [← about_decode, Report.about, List.mem_filter, decide_eq_true_iff]
  have hnames : ∀ d ∈ t.decode.1.report, d.place = s.name → ∀ field ∈ d.finding.fields,
      t.Defines s field ∨ (t.LacksFile s ∧ d.finding = .error (.missingField "disk_file")) := by
    intro d hd hplace field hfield
    have hmem := (habout d).1 ⟨hd, hplace⟩
    unfold reportsOf at hmem
    cases ht : t.tableOf s with
    | none => rw [ht] at hmem; cases hmem
    | some table =>
      rw [ht, Option.elim_some] at hmem
      rcases SlotTable.defines_or_lacksFile hmem hfield with h | ⟨hlacks, hmissing⟩
      · exact .inl ⟨table, ht, h⟩
      · exact .inr ⟨⟨table, ht, hlacks⟩, hmissing⟩
  refine ⟨hnames, ?_, ?_⟩
  · -- the report that the file is missing names a key which the sub-table does not define
    rintro hall ⟨table, ht, hlacks⟩
    obtain ⟨hmem, hundefined⟩ := SlotTable.reports_of_lacksFile hlacks s
    have hreports : ⟨s.name, .error (.missingField "disk_file")⟩ ∈ t.reportsOf s := by
      unfold reportsOf
      rw [ht, Option.elim_some]
      exact hmem
    obtain ⟨hd, hplace⟩ := (habout _).2 hreports
    obtain ⟨table', ht', hdefined⟩ := hall _ hd hplace "disk_file" (List.mem_singleton_self _)
    obtain rfl : table = table' := Option.some.inj (ht.symm.trans ht')
    exact hundefined hdefined
  · intro hlacks d hd hplace field hfield
    exact (hnames d hd hplace field hfield).resolve_right fun h => hlacks h.1

/-- A host disk is given by the key that a list has for its file. That key is unknown in the sub-table,
and is asked for all the same. -/
theorem field_names_unknown_key :
    let disk : HostDiskBlock := { unknown := .ofList [("disk_file", .string "/dev/sdb")] }
    let t : BusTables := { scsi := .ofList [("scsi0", { passthrough := some disk })] }
    let s : Slot := ⟨.scsi, 0, by decide⟩
    t.decode.1.report = [⟨s.name, .warning (.unknownField "passthrough.disk_file")⟩,
      ⟨s.name, .error (.missingField "disk_file")⟩] ∧
    ¬∀ d ∈ t.decode.1.report, d.place = s.name → ∀ field ∈ d.finding.fields, t.Defines s field := by
  intro disk t s
  have hreport : t.decode.1.report = [⟨s.name, .warning (.unknownField "passthrough.disk_file")⟩,
      ⟨s.name, .error (.missingField "disk_file")⟩] := by decide +kernel
  refine ⟨hreport, fun hall => ?_⟩
  have hmissing : ⟨s.name, .error (.missingField "disk_file")⟩ ∈ t.decode.1.report := by
    rw [hreport]
    exact List.mem_cons_of_mem _ (List.mem_singleton_self _)
  obtain ⟨table, ht, hdefined⟩ := hall _ hmissing rfl "disk_file" (List.mem_singleton_self _)
  have hname : s.name = "scsi0" := by decide +kernel
  have htable : t.tableOf s = some { passthrough := some disk } := by
    unfold tableOf
    rw [hname]
    rfl
  obtain rfl := Option.some.inj (htable.symm.trans ht)
  have hlacks : SlotTable.LacksFile { passthrough := some disk } := ⟨rfl, rfl, rfl, rfl, disk, rfl, rfl⟩
  exact (SlotTable.reports_of_lacksFile hlacks s).2 hdefined

end BusTables

end GuestDisks
