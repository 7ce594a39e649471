import GuestDisks.Proofs.Problems

/-!
# Supplied fields are used or warned about

Of the keys that a user supplies, some are used by the device asked for, and the bus may lack what a flag
asks for.

* Building warns of every other key and of every such flag, once each, and of nothing else
  (`Request.warningsOf_build`).
* The fields that were warned about are of no account (`Request.problems_cleared`): without them the same
  variant is built, the same errors are reported, and there is nothing left to warn of
  (`Request.warned_or_used`).
-/

namespace GuestDisks

/-! ## Keys of entries -/

section Entries

variable {α : Type} {key : String} {es : List (String × α)}

theorem mem_keys_filter {p : String × α → Bool} :
    key ∈ (es.filter p).map (·.1) ↔ ∃ v, (key, v) ∈ es ∧ p (key, v) = true := by
  simp only [List.mem_map, List.mem_filter, Prod.exists]
  constructor
  · rintro ⟨k, v, h, rfl⟩
    exact ⟨v, h⟩
  · rintro ⟨v, h⟩
    exact ⟨key, v, h, rfl⟩

theorem keys_filter_sublist (p : String × α → Bool) (es : List (String × α)) :
    ((es.filter p).map (·.1)).Sublist (es.map (·.1)) := List.filter_sublist.map _

/-- Entries with the values of some keys taken back to the default. -/
def clearEntries (keys : List String) (default : α) (es : List (String × α)) : List (String × α) :=
  es.map fun e => (e.1, if e.1 ∈ keys then default else e.2)

/-- Clearing keys leaves those among the supplied keys that are not cleared. -/
theorem keys_filter_clearEntries (keys : List String) (default : α) {p : α → Bool} (hp : p default = false)
    (es : List (String × α)) : ((clearEntries keys default es).filter fun e => p e.2).map (·.1) =
      ((es.filter fun e => p e.2).map (·.1)).filter fun k => decide (k ∉ keys) := by
  induction es with
  | nil => rfl
  | cons e es ih =>
    unfold clearEntries at ih ⊢
    rw [List.map_cons]
    by_cases hk : e.1 ∈ keys
    · cases hv : p e.2 <;> simp_all
    · cases hv : p e.2 <;> simp_all

/-- A key that is listed is found once. -/
theorem filter_eq_of_nodup {l : List String} (h : l.Nodup) (key : String) :
    l.filter (· = key) = if key ∈ l then [key] else [] := by
  rw [List.filter_eq, h.count]
  split <;> rfl

end Entries

/-! ## The supplied keys -/

/-- The keys that settings can have, in the order in which the supplied ones are listed. -/
def Settings.groupedKeys : List String :=
  ["cache", "asyncio", "serial", "wwn", "discard", "replicate", "backup", "emulatessd", "iothread",
    "readonly", "mbps_r_burst", "mbps_r_concurrent", "mbps_wr_burst", "mbps_wr_concurrent", "iops_r_burst",
    "iops_r_burst_length", "iops_r_concurrent", "iops_wr_burst", "iops_wr_burst_length",
    "iops_wr_concurrent"]

/-- The settings that are given are listed in a fixed order. -/
theorem Settings.populated_sublist (s : Settings) : s.populated.Sublist groupedKeys := by
  have hkeys : groupedKeys = s.texts.map (·.1) ++ s.flags.map (·.1) ++ s.limits.throughputs.map (·.1) ++
      s.limits.rates.map (·.1) := rfl
  rw [hkeys]
  exact (((keys_filter_sublist _ _).append (keys_filter_sublist _ _)).append
    (keys_filter_sublist _ _)).append (keys_filter_sublist _ _)

/-- So are the other fields. -/
theorem Fields.populated_sublist (f : Fields) : f.populated.Sublist keys := keys_filter_sublist _ f.texts

/-- No key is supplied twice. -/
theorem Request.nodup_supplied (r : Request) : r.supplied.Nodup := by
  have hflag : (if r.passthrough then ["passthrough"] else []).Sublist ["passthrough"] := by
    split
    · exact List.Sublist.refl _
    · exact List.nil_sublist _
  have hall : (Fields.keys ++ Settings.groupedKeys ++ ["passthrough"]).Nodup := by decide
  exact (((r.fields.populated_sublist).append r.fields.settings.populated_sublist).append hflag).nodup hall

/-- The flags that the bus of a request lacks. -/
def Request.unsupported (r : Request) : List String :=
  (if r.slot.bus.features.emulateSsd then [] else ["emulatessd"]) ++
  (if r.slot.bus.features.ioThread then [] else ["iothread"]) ++
  (if r.slot.bus.features.readOnly then [] else ["readonly"])

/-- Only three flags can be lacking on a bus. -/
theorem Request.unsupported_subset (r : Request) :
    r.unsupported ⊆ ["emulatessd", "iothread", "readonly"] := by
  unfold unsupported
  generalize r.slot.bus.features = has
  cases has.emulateSsd <;> cases has.ioThread <;> cases has.readOnly <;> decide

section Unsupported

variable {r : Request}

/-- A flag that counts as lacking is not among the features of the bus. So it is with each of the three. -/
theorem Request.emulateSsd_eq_false_of_unsupported (h : "emulatessd" ∈ r.unsupported) :
    r.slot.bus.features.emulateSsd = false := by
  unfold unsupported at h
  cases hs : r.slot.bus.features.emulateSsd <;> simp_all

theorem Request.ioThread_eq_false_of_unsupported (h : "iothread" ∈ r.unsupported) :
    r.slot.bus.features.ioThread = false := by
  unfold unsupported at h
  cases hs : r.slot.bus.features.ioThread <;> simp_all

theorem Request.readOnly_eq_false_of_unsupported (h : "readonly" ∈ r.unsupported) :
    r.slot.bus.features.readOnly = false := by
  unfold unsupported at h
  cases hs : r.slot.bus.features.readOnly <;> simp_all

end Unsupported

namespace Settings

variable {s : Settings}

/-- A flag is supplied exactly if it is set. So it is with each of the three. -/
theorem emulatessd_mem_populated : "emulatessd" ∈ s.populated ↔ s.emulateSsd = true := by
  simp only [populated, List.mem_append, mem_keys_filter]
  simp [texts, flags, FlatLimits.throughputs, FlatLimits.rates]

theorem iothread_mem_populated : "iothread" ∈ s.populated ↔ s.ioThread = true := by
  simp only [populated, List.mem_append, mem_keys_filter]
  simp [texts, flags, FlatLimits.throughputs, FlatLimits.rates]

theorem readonly_mem_populated : "readonly" ∈ s.populated ↔ s.readOnly = true := by
  simp only [populated, List.mem_append, mem_keys_filter]
  simp [texts, flags, FlatLimits.throughputs, FlatLimits.rates]

end Settings

/-! ## The warnings about a key -/

/-- The key that a notice is about. -/
def Notice.key : Notice → String
  | .fieldIgnored field _ => field
  | .unsupportedOnBus field _ => field
  | .unknownField key => key

/-- The key that a finding warns about, unless it is an error. -/
def Finding.warnedKey? : Finding → Option String
  | .error _ => none
  | .warning n => some n.key

/-- Whether a finding warns about a key. -/
def Finding.warnsOf (key : String) (f : Finding) : Bool := f.warnedKey? = some key

namespace Checked

variable {α β : Type} {key : String}

/-- The warnings about a key. -/
def warningsOf (key : String) (w : Checked α) : List Finding := w.findings.filter (·.warnsOf key)

@[simp] theorem warningsOf_pure (a : α) : (pure a : Checked α).warningsOf key = [] := rfl

@[simp] theorem warningsOf_map (f : α → β) (x : Checked α) : (f <$> x).warningsOf key = x.warningsOf key := rfl

/-- The warnings of two parts are listed in order. -/
@[simp] theorem warningsOf_seq (f : Checked (α → β)) (x : Checked α) :
    (f <*> x).warningsOf key = f.warningsOf key ++ x.warningsOf key := List.filter_append ..

@[simp] theorem warningsOf_seqRight (x : Checked α) (y : Checked β) :
    (x *> y).warningsOf key = x.warningsOf key ++ y.warningsOf key := List.filter_append ..

@[simp] theorem warningsOf_problem (p : Problem) : (problem p : Checked α).warningsOf key = [] := rfl

@[simp] theorem warningsOf_ofExcept (e : Except Problem α) : (ofExcept e).warningsOf key = [] := by
  cases e <;> rfl

end Checked

namespace Request

open Checked

variable {r : Request} {key : String}

@[simp] theorem warningsOf_required (field value : String) : (required field value).warningsOf key = [] := by
  unfold required
  split <;> rfl

@[simp] theorem warningsOf_size (raw : String) : (size raw).warningsOf key = [] := by
  unfold size
  split
  · rfl
  · exact warningsOf_ofExcept _

/-- The fields that are ignored are warned about. -/
theorem warningsOf_ignored (r : Request) (fields : List String) : (r.ignored fields).warningsOf key =
    (fields.filter (· = key)).map fun field => .warning (.fieldIgnored field r.deviceName) := by
  unfold warningsOf ignored
  rw [findings_warn, List.map_map, List.filter_map]
  congr 1
  exact List.filter_congr fun field _ => by simp [Finding.warnsOf, Finding.warnedKey?, Notice.key]

/-- A flag is warned about exactly if it is set and the bus lacks it. -/
theorem warningsOf_busFlag (r : Request) (field : String) (set supported : Bool) :
    (r.busFlag field set supported).warningsOf key =
      if field = key ∧ set = true ∧ supported = false then [.warning (.unsupportedOnBus key r.slot.bus)]
      else [] := by
  unfold busFlag
  cases set <;> cases supported <;> simp [warningsOf, Finding.warnsOf, Finding.warnedKey?, Notice.key]
  · by_cases h : field = key <;> simp [h]

/-- Of the settings, the flags that the bus lacks are warned about, if they are set. -/
theorem warningsOf_options (r : Request) : r.options.warningsOf key =
    if key ∈ r.fields.settings.populated ∧ key ∈ r.unsupported then
      [.warning (.unsupportedOnBus key r.slot.bus)] else [] := by
  unfold options
  simp only [warningsOf_seq, warningsOf_map, warningsOf_pure, warningsOf_ofExcept, warningsOf_busFlag,
    List.append_nil, List.nil_append]
  -- a key is that of one of the three flags, or of none
  by_cases hssd : key = "emulatessd"
  · subst hssd
    simp only [Settings.emulatessd_mem_populated, unsupported]
    cases r.slot.bus.features.emulateSsd <;> simp
  by_cases hthread : key = "iothread"
  · subst hthread
    simp only [Settings.iothread_mem_populated, unsupported]
    cases r.slot.bus.features.ioThread <;> simp
  by_cases hro : key = "readonly"
  · subst hro
    simp only [Settings.readonly_mem_populated, unsupported]
    cases r.slot.bus.features.readOnly <;> simp
  have hnone : key ∉ r.unsupported := by
    intro h
    have hflag := r.unsupported_subset h
    simp only [List.mem_cons, List.not_mem_nil, or_false] at hflag
    rcases hflag with h | h | h
    · exact hssd h
    · exact hthread h
    · exact hro h
  rw [if_neg fun h => hssd h.1.symm, if_neg fun h => hthread h.1.symm, if_neg fun h => hro h.1.symm,
    if_neg fun h => hnone h.2]
  rfl

/-! ## What building warns of -/

/-- The supplied keys that the device asked for does not use. -/
def unused (r : Request) : List String := r.supplied.filter (· ∉ r.uses)

theorem mem_unused : key ∈ r.unused ↔ key ∈ r.supplied ∧ key ∉ r.uses := by
  unfold unused
  rw [List.mem_filter, decide_eq_true_iff]

/-- The warnings about a key: one if it is supplied, and unused or that of a flag which the bus lacks. -/
def warnings (r : Request) (key : String) : List Finding :=
  if key ∉ r.supplied then []
  else if key ∉ r.uses then [.warning (.fieldIgnored key r.deviceName)]
  else if key ∈ r.unsupported then [.warning (.unsupportedOnBus key r.slot.bus)]
  else []

/-- If the unused keys are ignored, each is warned about once. -/
theorem warningsOf_ignored_unused {fields : List String} (h : fields.Perm r.unused) :
    (r.ignored fields).warningsOf key =
      if key ∈ r.supplied ∧ key ∉ r.uses then [.warning (.fieldIgnored key r.deviceName)] else [] := by
  have hnodup : fields.Nodup := h.nodup_iff.2 (r.nodup_supplied.filter _)
  have hmem : key ∈ fields ↔ key ∈ r.supplied ∧ key ∉ r.uses := h.mem_iff.trans mem_unused
  rw [warningsOf_ignored, filter_eq_of_nodup hnodup, if_congr hmem rfl rfl]
  split <;> rfl

/-- The unused keys are those of the fields, of the settings and of the flag for handing through. -/
theorem unused_eq_append (r : Request) : r.unused =
    r.fields.populated.filter (· ∉ r.uses) ++ r.fields.settings.populated.filter (· ∉ r.uses) ++
      (if r.passthrough then ["passthrough"] else []).filter (· ∉ r.uses) := by
  unfold unused supplied
  rw [List.filter_append, List.filter_append]

/-- A filter that passes the keys which are not used. -/
theorem filter_populated_eq {p : String → Bool} (h : ∀ key ∈ Fields.keys, p key = decide (key ∉ r.uses)) :
    r.fields.populated.filter p = r.fields.populated.filter (· ∉ r.uses) :=
  List.filter_congr fun key hkey => h key (r.fields.populated_subset hkey)

/-- Where settings are used, none of them goes unused. -/
theorem filter_settings_of_used (h : Settings.keys ⊆ r.uses) :
    r.fields.settings.populated.filter (· ∉ r.uses) = [] := by
  rw [List.filter_eq_nil_iff]
  intro key hkey
  have hused := h (r.fields.settings.populated_subset hkey)
  simpa using hused

/-- Where they are not, all that are given do. -/
theorem filter_settings_of_unused (h : ∀ key ∈ Settings.keys, key ∉ r.uses) :
    r.fields.settings.populated.filter (· ∉ r.uses) = r.fields.settings.populated := by
  rw [List.filter_eq_self]
  intro key hkey
  have hunused := h key (r.fields.settings.populated_subset hkey)
  simpa using hunused

/-- What a managed disk does not use. The other devices follow. -/
theorem unused_volume (hk : r.kind = .disk) (hp : r.passthrough = false) :
    r.unused = r.fields.populated.filter fun f => f == "iso" || f == "disk_file" := by
  have huses := uses_volume hk hp
  have hfields : ∀ key ∈ Fields.keys, (key == "iso" || key == "disk_file") = decide (key ∉ r.uses) := by
    rw [huses]; decide
  have hsettings : Settings.keys ⊆ r.uses := by
    rw [huses]; exact List.subset_append_right ..
  rw [unused_eq_append, ← filter_populated_eq hfields, filter_settings_of_used hsettings, hp]
  simp

theorem unused_hostDisk (hk : r.kind = .disk) (hp : r.passthrough = true) :
    r.unused = r.fields.populated.filter (· != "disk_file") := by
  have huses := uses_hostDisk hk hp
  have hfields : ∀ key ∈ Fields.keys, (key != "disk_file") = decide (key ∉ r.uses) := by
    rw [huses]; decide
  have hsettings : Settings.keys ⊆ r.uses := by
    rw [huses]; exact List.subset_append_right ..
  have hflag : "passthrough" ∈ r.uses := by
    rw [huses]; decide
  rw [unused_eq_append, ← filter_populated_eq hfields, filter_settings_of_used hsettings, hp]
  simp [hflag]

theorem unused_medium (hk : r.kind = .cdrom) :
    r.unused = r.fields.populated.filter (· != "iso") ++ r.fields.settings.populated := by
  have huses := uses_medium hk
  have hfields : ∀ key ∈ Fields.keys, (key != "iso") = decide (key ∉ r.uses) := by
    rw [huses]; decide
  have hsettings : ∀ key ∈ Settings.keys, key ∉ r.uses := by
    rw [huses]; decide
  have hflag : "passthrough" ∈ r.uses := by
    rw [huses]; decide
  rw [unused_eq_append, ← filter_populated_eq hfields, filter_settings_of_unused hsettings]
  cases r.passthrough <;> simp [hflag]

theorem unused_cloudInit (hk : r.kind = .cloudInit) :
    r.unused = r.fields.populated.filter (· != "storage") ++ r.fields.settings.populated ++
      if r.passthrough then ["passthrough"] else [] := by
  have huses := uses_cloudInit hk
  have hfields : ∀ key ∈ Fields.keys, (key != "storage") = decide (key ∉ r.uses) := by
    rw [huses]; decide
  have hsettings : ∀ key ∈ Settings.keys, key ∉ r.uses := by
    rw [huses]; decide
  have hflag : "passthrough" ∉ r.uses := by
    rw [huses]; decide
  rw [unused_eq_append, ← filter_populated_eq hfields, filter_settings_of_unused hsettings]
  cases r.passthrough <;> simp [hflag]

theorem warningsOf_ignored_append (l m : List String) : (r.ignored l).warningsOf key ++
    (r.ignored m).warningsOf key = (r.ignored (l ++ m)).warningsOf key := by
  rw [warningsOf_ignored, warningsOf_ignored, warningsOf_ignored, List.filter_append, List.map_append]

/-- A flag that the bus lacks is supplied if it is among the settings that are. -/
theorem mem_populated_of_unsupported (hs : key ∈ r.supplied) (hu : key ∈ r.unsupported) :
    key ∈ r.fields.settings.populated := by
  have hflag := r.unsupported_subset hu
  have hfields : ∀ key ∈ ["emulatessd", "iothread", "readonly"], key ∉ Fields.keys := by decide
  have hpassthrough : "passthrough" ∉ ["emulatessd", "iothread", "readonly"] := by decide
  rcases List.mem_append.1 hs with hs | hs
  · rcases List.mem_append.1 hs with hs | hs
    · exact absurd (r.fields.populated_subset hs) (hfields key hflag)
    · exact hs
  · split at hs
    · rw [List.mem_singleton.1 hs] at hflag
      exact absurd hflag hpassthrough
    · cases hs

/-- The warnings of a device that uses all settings. -/
theorem warnings_of_used (h : Settings.keys ⊆ r.uses) : r.warnings key =
    (if key ∈ r.supplied ∧ key ∉ r.uses then [.warning (.fieldIgnored key r.deviceName)] else []) ++
      r.options.warningsOf key := by
  unfold warnings
  rw [warningsOf_options]
  by_cases hs : key ∈ r.supplied
  · by_cases hu : key ∈ r.uses
    · by_cases hn : key ∈ r.unsupported
      · simp [hs, hu, hn, mem_populated_of_unsupported hs hn]
      · simp [hs, hu, hn]
    · -- a key that is not used is none of the settings
      have hp : key ∉ r.fields.settings.populated := fun hp => hu (h (r.fields.settings.populated_subset hp))
      simp [hs, hu, hp]
  · have hp : key ∉ r.fields.settings.populated := fun hp =>
      hs (List.mem_append_left _ (List.mem_append_right _ hp))
    simp [hs, hp]

/-- The warnings of a device that uses no setting. -/
theorem warnings_of_unused (h : ∀ key ∈ Settings.keys, key ∉ r.uses) : r.warnings key =
    if key ∈ r.supplied ∧ key ∉ r.uses then [.warning (.fieldIgnored key r.deviceName)] else [] := by
  unfold warnings
  by_cases hs : key ∈ r.supplied
  · by_cases hu : key ∈ r.uses
    · have hn : key ∉ r.unsupported := fun hn =>
        h key (r.fields.settings.populated_subset (mem_populated_of_unsupported hs hn)) hu
      simp [hs, hu, hn]
    · simp [hs, hu]
  · simp [hs]

/-- A managed disk is warned about as its request says. So is each device below. -/
theorem warningsOf_volume (hk : r.kind = .disk) (hp : r.passthrough = false) :
    r.volume.warningsOf key = r.warnings key := by
  have hsettings : Settings.keys ⊆ r.uses := by
    rw [uses_volume hk hp]; exact List.subset_append_right ..
  rw [warnings_of_used hsettings, ← warningsOf_ignored_unused (.of_eq (unused_volume hk hp).symm)]
  simp [volume]

theorem warningsOf_hostDisk (hk : r.kind = .disk) (hp : r.passthrough = true) :
    r.hostDisk.warningsOf key = r.warnings key := by
  have hsettings : Settings.keys ⊆ r.uses := by
    rw [uses_hostDisk hk hp]; exact List.subset_append_right ..
  rw [warnings_of_used hsettings, ← warningsOf_ignored_unused (.of_eq (unused_hostDisk hk hp).symm)]
  simp [hostDisk]

theorem warningsOf_medium (hk : r.kind = .cdrom) : r.medium.warningsOf key = r.warnings key := by
  have hsettings : ∀ key ∈ Settings.keys, key ∉ r.uses := by
    rw [uses_medium hk]; decide
  have hbare : (if r.fields.iso = "" then pure (if r.passthrough then .passthrough else .none)
      else if r.passthrough then problem (.conflictingFields "iso" "passthrough")
      else (fun p => .iso p.1 p.2) <$> ofExcept (Check.iso r.fields.iso) :
        Checked Medium).warningsOf key = [] := by
    split
    · rfl
    · split <;> simp
  rw [warnings_of_unused hsettings, ← warningsOf_ignored_unused (.of_eq (unused_medium hk).symm),
    ← warningsOf_ignored_append]
  simp only [medium, warningsOf_seqRight, hbare, List.append_nil]

theorem warningsOf_cloudInit (hk : r.kind = .cloudInit) : r.cloudInit.warningsOf key = r.warnings key := by
  have hsettings : ∀ key ∈ Settings.keys, key ∉ r.uses := by
    rw [uses_cloudInit hk]; decide
  have hbare : (if r.slot.bus.accepts .cloudInit then pure ()
      else problem (.unsupportedOnBus Kind.cloudInit.label r.slot.bus) :
        Checked Unit).warningsOf key = [] := by
    split <;> rfl
  -- the flag is warned about before the settings
  have hperm : (r.fields.populated.filter (· != "storage") ++
      (if r.passthrough then ["passthrough"] else []) ++ r.fields.settings.populated).Perm r.unused := by
    rw [unused_cloudInit hk, List.append_assoc, List.append_assoc]
    exact List.perm_append_comm.append_left _
  rw [warnings_of_unused hsettings, ← warningsOf_ignored_unused hperm, ← warningsOf_ignored_append,
    ← warningsOf_ignored_append]
  simp only [cloudInit, warningsOf_seqRight, hbare, warningsOf_required, List.nil_append, List.append_nil]

/-- **Building warns of what is not used**, once each, and of nothing else. -/
theorem warningsOf_build (r : Request) (key : String) : r.build.warningsOf key = r.warnings key := by
  unfold build
  split
  · exact warningsOf_volume ‹_› ‹_›
  · exact warningsOf_hostDisk ‹_› ‹_›
  · exact warningsOf_medium ‹_›
  · exact warningsOf_cloudInit ‹_›

/-! ## Clearing fields -/

end Request

/-- The limits with those under some keys taken away. -/
def FlatLimits.without (keys : List String) (f : FlatLimits Int) : FlatLimits Int where
  mbpsReadBurst := if "mbps_r_burst" ∈ keys then .zero else f.mbpsReadBurst
  mbpsReadConcurrent := if "mbps_r_concurrent" ∈ keys then .zero else f.mbpsReadConcurrent
  mbpsWriteBurst := if "mbps_wr_burst" ∈ keys then .zero else f.mbpsWriteBurst
  mbpsWriteConcurrent := if "mbps_wr_concurrent" ∈ keys then .zero else f.mbpsWriteConcurrent
  iopsReadBurst := if "iops_r_burst" ∈ keys then 0 else f.iopsReadBurst
  iopsReadBurstLength := if "iops_r_burst_length" ∈ keys then 0 else f.iopsReadBurstLength
  iopsReadConcurrent := if "iops_r_concurrent" ∈ keys then 0 else f.iopsReadConcurrent
  iopsWriteBurst := if "iops_wr_burst" ∈ keys then 0 else f.iopsWriteBurst
  iopsWriteBurstLength := if "iops_wr_burst_length" ∈ keys then 0 else f.iopsWriteBurstLength
  iopsWriteConcurrent := if "iops_wr_concurrent" ∈ keys then 0 else f.iopsWriteConcurrent

/-- The settings with those under some keys back at their defaults. -/
def Settings.without (keys : List String) (s : Settings) : Settings where
  cache := if "cache" ∈ keys then "" else s.cache
  engine := if "asyncio" ∈ keys then "" else s.engine
  discard := if "discard" ∈ keys then false else s.discard
  replicate := if "replicate" ∈ keys then false else s.replicate
  backup := if "backup" ∈ keys then none else s.backup
  serial := if "serial" ∈ keys then "" else s.serial
  wwn := if "wwn" ∈ keys then "" else s.wwn
  emulateSsd := if "emulatessd" ∈ keys then false else s.emulateSsd
  ioThread := if "iothread" ∈ keys then false else s.ioThread
  readOnly := if "readonly" ∈ keys then false else s.readOnly
  limits := s.limits.without keys

/-- The fields with those under some keys back at their defaults. -/
def Fields.without (keys : List String) (f : Fields) : Fields where
  storage := if "storage" ∈ keys then "" else f.storage
  size := if "size" ∈ keys then "" else f.size
  format := if "format" ∈ keys then "" else f.format
  iso := if "iso" ∈ keys then "" else f.iso
  diskFile := if "disk_file" ∈ keys then "" else f.diskFile
  settings := f.settings.without keys

/-- A request with the fields under some keys back at their defaults. -/
def Request.without (keys : List String) (r : Request) : Request where
  slot := r.slot
  kind := r.kind
  passthrough := if "passthrough" ∈ keys then false else r.passthrough
  fields := r.fields.without keys

section Without

variable {keys : List String}

/-- Settings without some keys are given under the others. -/
theorem Settings.populated_without (s : Settings) :
    (s.without keys).populated = s.populated.filter (· ∉ keys) := by
  have htexts : (s.without keys).texts = clearEntries keys "" s.texts := rfl
  have hflags : (s.without keys).flags = clearEntries keys false s.flags := by
    have hbackup : (if "backup" ∈ keys then none else s.backup).isSome =
        if "backup" ∈ keys then false else s.backup.isSome := by split <;> rfl
    unfold flags
    rw [show (s.without keys).backup.isSome = _ from hbackup]
    rfl
  have hthroughputs : (s.without keys).limits.throughputs =
      clearEntries keys .zero s.limits.throughputs := rfl
  have hrates : (s.without keys).limits.rates = clearEntries keys 0 s.limits.rates := rfl
  unfold populated
  rw [htexts, hflags, hthroughputs, hrates, List.filter_append, List.filter_append, List.filter_append,
    ← keys_filter_clearEntries keys "" (p := fun v => v != "") rfl,
    ← keys_filter_clearEntries keys false (p := fun v => v) rfl,
    ← keys_filter_clearEntries keys .zero (p := fun v => !Binary64.isZero v) rfl,
    ← keys_filter_clearEntries keys 0 (p := fun v => v != 0) rfl]

/-- Fields without some keys are given under the others. -/
theorem Fields.populated_without (f : Fields) :
    (f.without keys).populated = f.populated.filter (· ∉ keys) := by
  have htexts : (f.without keys).texts = clearEntries keys "" f.texts := rfl
  unfold populated
  rw [htexts]
  exact keys_filter_clearEntries keys "" (p := fun v => v != "") rfl _

/-- Of what was supplied, the keys that are not cleared are left. -/
theorem Request.supplied_without (r : Request) :
    (r.without keys).supplied = r.supplied.filter (· ∉ keys) := by
  have hflag : (if (r.without keys).passthrough then ["passthrough"] else []) =
      (if r.passthrough then ["passthrough"] else []).filter (· ∉ keys) := by
    unfold without
    by_cases h : "passthrough" ∈ keys <;> cases r.passthrough <;> simp [h]
  unfold supplied
  rw [hflag, List.filter_append, List.filter_append, ← Fields.populated_without,
    ← Settings.populated_without]
  rfl

end Without

/-! ## Requests without the fields that were warned about -/

namespace Checked

variable {α : Type}

/-- Without its warnings, what was found is the problems. -/
theorem filter_isError_findings (w : Checked α) : w.findings.filter (·.isError) = w.problems.map .error := by
  unfold problems
  induction w.findings with
  | nil => rfl
  | cons f fs ih =>
    cases f with
    | error p => exact congrArg (.error p :: ·) ih
    | warning n => exact ih

/-- A key is warned about if there is some warning about it. -/
theorem mem_warnedKeys {key : String} {w : Checked α} :
    key ∈ w.findings.filterMap (·.warnedKey?) ↔ w.warningsOf key ≠ [] := by
  unfold warningsOf
  simp [Finding.warnsOf, List.filter_eq_nil_iff]

/-- If no key is warned about, all that was found is errors. -/
theorem findings_eq_of_warningsOf {w : Checked α} (h : ∀ key, w.warningsOf key = []) :
    w.findings = w.problems.map .error := by
  rw [← filter_isError_findings, Eq.comm, List.filter_eq_self]
  intro f hf
  cases f with
  | error p => rfl
  | warning n =>
    have hnone := h n.key
    unfold warningsOf at hnone
    have hwarns := List.filter_eq_nil_iff.1 hnone _ hf
    simp [Finding.warnsOf, Finding.warnedKey?] at hwarns

end Checked

namespace Request

open Checked

variable {r : Request} {key : String}

/-- The keys that building a request warns about. -/
def warned (r : Request) : List String := r.build.findings.filterMap (·.warnedKey?)

/-- A request without the fields that building it warns about. -/
def cleared (r : Request) : Request := r.without r.warned

/-- The keys warned about are those supplied that are unused, or flags that the bus lacks. -/
theorem mem_warned : key ∈ r.warned ↔ key ∈ r.supplied ∧ (key ∉ r.uses ∨ key ∈ r.unsupported) := by
  unfold warned
  rw [mem_warnedKeys, warningsOf_build]
  unfold warnings
  by_cases hs : key ∈ r.supplied <;> by_cases hu : key ∈ r.uses <;> by_cases hn : key ∈ r.unsupported <;>
    simp [hs, hu, hn]

/-- Clearing takes no field from a device that it uses, the flags that its bus lacks apart. -/
theorem notMem_warned_of_used (hu : key ∈ r.uses) (hn : key ∉ ["emulatessd", "iothread", "readonly"]) :
    key ∉ r.warned := by
  intro h
  rcases (mem_warned.1 h).2 with h | h
  · exact h hu
  · exact hn (r.unsupported_subset h)

theorem passthrough_cleared_of_used (hu : "passthrough" ∈ r.uses) : r.cleared.passthrough = r.passthrough :=
  if_neg (notMem_warned_of_used hu (by decide))

/-- Clearing an unset flag leaves it unset. -/
theorem passthrough_cleared_of_unset (hp : r.passthrough = false) : r.cleared.passthrough = false := by
  unfold cleared without
  rw [hp]
  exact ite_self _

/-- What is left of a flag that the bus may lack, where the bus has it. -/
theorem and_supported_cleared {has : Bool} (h : key ∈ r.warned → has = false) (set : Bool) :
    ((if key ∈ r.warned then false else set) && has) = (set && has) := by
  split
  · rw [h ‹_›, Bool.and_false, Bool.and_false]
  · rfl

end Request

theorem Fields.GiveMedium.of_iso_eq {f g : Fields} {p : Bool} {m : Medium} (h : f.iso = g.iso)
    (hm : f.GiveMedium p m) : g.GiveMedium p m := by
  cases hm with
  | none hi => exact .none (h ▸ hi)
  | passthrough hi => exact .passthrough (h ▸ hi)
  | iso hi => exact .iso (h ▸ hi)

/-- Settings that are cleared of no more than the flags that buses may lack. -/
theorem Settings.without_eq {keys : List String} (h : ∀ key ∈ Settings.keys,
    key ∉ ["emulatessd", "iothread", "readonly"] → key ∉ keys) (s : Settings) :
    s.without keys = { s with
      emulateSsd := if "emulatessd" ∈ keys then false else s.emulateSsd
      ioThread := if "iothread" ∈ keys then false else s.ioThread
      readOnly := if "readonly" ∈ keys then false else s.readOnly } := by
  have hkept : ∀ key ∈ groupedKeys, key ∉ ["emulatessd", "iothread", "readonly"] → key ∉ keys := by
    intro key hkey
    have hsub : ∀ key ∈ groupedKeys, key ∈ Settings.keys := by decide
    exact h key (hsub key hkey)
  have hlimits : s.limits.without keys = s.limits := by
    simp (disch := decide) only [FlatLimits.without, hkept, if_false]
  unfold without
  rw [hlimits]
  simp (disch := decide) only [hkept, if_false]

namespace Request

open Checked

variable {r : Request} {key : String}

/-- Where settings are used, those that are left ask for the same options. -/
theorem settings_cleared (h : Settings.keys ⊆ r.uses) :
    r.cleared.fields.settings.problems = r.fields.settings.problems ∧
      ∀ o, r.cleared.fields.settings.Give r.slot.bus o ↔ r.fields.settings.Give r.slot.bus o := by
  -- of used settings only flags are cleared, and only where the bus makes nothing of them
  have heq : r.cleared.fields.settings = r.fields.settings.without r.warned := rfl
  have hssd : "emulatessd" ∈ r.warned → r.slot.bus.features.emulateSsd = false := fun hw =>
    emulateSsd_eq_false_of_unsupported ((mem_warned.1 hw).2.resolve_left fun hu => hu (h (by decide)))
  have hthread : "iothread" ∈ r.warned → r.slot.bus.features.ioThread = false := fun hw =>
    ioThread_eq_false_of_unsupported ((mem_warned.1 hw).2.resolve_left fun hu => hu (h (by decide)))
  have hro : "readonly" ∈ r.warned → r.slot.bus.features.readOnly = false := fun hw =>
    readOnly_eq_false_of_unsupported ((mem_warned.1 hw).2.resolve_left fun hu => hu (h (by decide)))
  rw [heq, Settings.without_eq fun key hk hf => notMem_warned_of_used (h hk) hf]
  refine ⟨rfl, fun o => ?_⟩
  constructor
  · intro ⟨hcache, hengine, hdiscard, hreplicate, hbackup, hserial, hwwn, hs, ht, hr, hlimits⟩
    exact ⟨hcache, hengine, hdiscard, hreplicate, hbackup, hserial, hwwn,
      hs.trans (and_supported_cleared hssd _), ht.trans (and_supported_cleared hthread _),
      hr.trans (and_supported_cleared hro _), hlimits⟩
  · intro ⟨hcache, hengine, hdiscard, hreplicate, hbackup, hserial, hwwn, hs, ht, hr, hlimits⟩
    exact ⟨hcache, hengine, hdiscard, hreplicate, hbackup, hserial, hwwn,
      hs.trans (and_supported_cleared hssd _).symm, ht.trans (and_supported_cleared hthread _).symm,
      hr.trans (and_supported_cleared hro _).symm, hlimits⟩

/-- A managed disk loses nothing by what is cleared. Nor does a device of another kind. -/
theorem volume_cleared (hk : r.kind = .disk) (hp : r.passthrough = false) :
    r.cleared.fields.volumeProblems = r.fields.volumeProblems ∧
      ∀ w, r.cleared.fields.GiveVolume r.slot.bus w ↔ r.fields.GiveVolume r.slot.bus w := by
  have huses := uses_volume hk hp
  obtain ⟨hproblems, hgive⟩ := r.settings_cleared (by rw [huses]; exact List.subset_append_right ..)
  have hstorage : r.cleared.fields.storage = r.fields.storage :=
    if_neg (notMem_warned_of_used (by rw [huses]; decide) (by decide))
  have hsize : r.cleared.fields.size = r.fields.size :=
    if_neg (notMem_warned_of_used (by rw [huses]; decide) (by decide))
  have hformat : r.cleared.fields.format = r.fields.format :=
    if_neg (notMem_warned_of_used (by rw [huses]; decide) (by decide))
  constructor
  · unfold Fields.volumeProblems
    rw [hproblems, hstorage, hsize, hformat]
  · intro w
    constructor
    · intro h
      exact ⟨h.storage.trans hstorage, hsize ▸ h.size, hformat ▸ h.format, (hgive _).1 h.options⟩
    · intro h
      exact ⟨h.storage.trans hstorage.symm, hsize ▸ h.size, hformat ▸ h.format, (hgive _).2 h.options⟩

theorem hostDisk_cleared (hk : r.kind = .disk) (hp : r.passthrough = true) :
    r.cleared.fields.hostDiskProblems = r.fields.hostDiskProblems ∧
      ∀ d, r.cleared.fields.GiveHostDisk r.slot.bus d ↔ r.fields.GiveHostDisk r.slot.bus d := by
  have huses := uses_hostDisk hk hp
  obtain ⟨hproblems, hgive⟩ := r.settings_cleared (by rw [huses]; exact List.subset_append_right ..)
  have hfile : r.cleared.fields.diskFile = r.fields.diskFile :=
    if_neg (notMem_warned_of_used (by rw [huses]; decide) (by decide))
  constructor
  · unfold Fields.hostDiskProblems
    rw [hproblems, hfile]
  · intro d
    constructor
    · intro h
      exact ⟨h.file.trans hfile, (hgive _).1 h.options⟩
    · intro h
      exact ⟨h.file.trans hfile.symm, (hgive _).2 h.options⟩

theorem medium_cleared (hk : r.kind = .cdrom) (p : Bool) :
    r.cleared.fields.mediumProblems p = r.fields.mediumProblems p ∧
      ∀ m, r.cleared.fields.GiveMedium p m ↔ r.fields.GiveMedium p m := by
  have hiso : r.cleared.fields.iso = r.fields.iso :=
    if_neg (notMem_warned_of_used (by rw [uses_medium hk]; decide) (by decide))
  constructor
  · unfold Fields.mediumProblems
    rw [hiso]
  · intro m
    exact ⟨Fields.GiveMedium.of_iso_eq hiso, Fields.GiveMedium.of_iso_eq hiso.symm⟩

theorem passthrough_cleared_disk (hk : r.kind = .disk) : r.cleared.passthrough = r.passthrough := by
  cases hp : r.passthrough with
  | false => exact passthrough_cleared_of_unset hp
  | true => rw [passthrough_cleared_of_used (by rw [uses_hostDisk hk hp]; decide), hp]

/-- **Clearing what was warned about changes neither what is wrong nor what is asked for.** -/
theorem problems_cleared (r : Request) :
    r.cleared.problems = r.problems ∧ ∀ v, r.cleared.Gives v ↔ r.Gives v := by
  have hslot : r.cleared.slot = r.slot := rfl
  have hkind : r.cleared.kind = r.kind := rfl
  unfold problems Gives
  rw [hslot, hkind]
  cases hk : r.kind with
  | disk =>
    rw [passthrough_cleared_disk hk]
    cases hp : r.passthrough with
    | false =>
      obtain ⟨hproblems, hgive⟩ := volume_cleared hk hp
      exact ⟨hproblems, fun v => exists_congr fun w => and_congr_right fun _ => hgive w⟩
    | true =>
      obtain ⟨hproblems, hgive⟩ := hostDisk_cleared hk hp
      exact ⟨hproblems, fun v => exists_congr fun d => and_congr_right fun _ => hgive d⟩
  | cdrom =>
    rw [passthrough_cleared_of_used (by rw [uses_medium hk]; decide)]
    obtain ⟨hproblems, hgive⟩ := medium_cleared hk r.passthrough
    exact ⟨hproblems, fun v => exists_congr fun m => and_congr_right fun _ => hgive m⟩
  | cloudInit =>
    -- only the storage is looked at, and it is used
    have hstorage : r.cleared.fields.storage = r.fields.storage :=
      if_neg (notMem_warned_of_used (by rw [uses_cloudInit hk]; decide) (by decide))
    have hproblems : r.cleared.fields.cloudInitProblems r.slot.bus =
        r.fields.cloudInitProblems r.slot.bus := by
      unfold Fields.cloudInitProblems
      rw [hstorage]
    rw [hstorage]
    exact ⟨hproblems, fun v => Iff.rfl⟩

/-- What is still supplied is used, and is no flag that the bus lacks. -/
theorem supplied_cleared (h : key ∈ r.cleared.supplied) :
    key ∈ r.supplied ∧ key ∈ r.uses ∧ key ∉ r.unsupported := by
  unfold cleared at h
  rw [supplied_without, List.mem_filter, decide_eq_true_iff, mem_warned] at h
  obtain ⟨hs, hw⟩ := h
  refine ⟨hs, by_contra fun hu => hw ⟨hs, .inl hu⟩, fun hn => hw ⟨hs, .inr hn⟩⟩

/-- A cleared request is for the same device. -/
theorem uses_cleared (r : Request) : r.cleared.uses = r.uses := by
  have hkind : r.cleared.kind = r.kind := rfl
  unfold uses
  rw [hkind]
  cases hk : r.kind with
  | disk => rw [passthrough_cleared_disk hk]
  | cdrom => rfl
  | cloudInit => rfl

/-- A cleared request is built without warnings. -/
theorem warningsOf_build_cleared (r : Request) (key : String) : r.cleared.build.warningsOf key = [] := by
  have hunsupported : r.cleared.unsupported = r.unsupported := rfl
  rw [warningsOf_build]
  unfold warnings
  by_cases hs : key ∈ r.cleared.supplied
  · obtain ⟨-, hu, hn⟩ := supplied_cleared hs
    simp [hs, uses_cleared, hu, hunsupported, hn]
  · simp [hs]

/-- **Every supplied key is used or warned about, once.** Building warns of a supplied key exactly if the
device does not use it, or it is a flag that the bus lacks. Without the fields that were warned about, the
same comes out of building, with the same errors and no warning. -/
theorem warned_or_used (r : Request) :
    (∀ key, r.build.findings.filter (·.warnsOf key) = r.warnings key) ∧
    r.cleared.build.value = r.build.value ∧
    r.cleared.build.findings = r.build.findings.filter (·.isError) := by
  obtain ⟨hproblems, hgives⟩ := r.problems_cleared
  refine ⟨r.warningsOf_build, ?_, ?_⟩
  · refine Option.ext fun v => ?_
    rw [value_build_eq_some_iff, value_build_eq_some_iff, hproblems, hgives]
  · rw [findings_eq_of_warningsOf r.warningsOf_build_cleared, filter_isError_findings, problems_build,
      problems_build, hproblems]

end Request

end GuestDisks
