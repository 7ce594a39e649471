import GuestDisks.Proofs.Histories

/-!
# The problems of a request

What is wrong with a request can be said without building it: `Request.problems` lists, device by device,
the fields that are missing or no good. Building makes all of its checks whatever they find, so

* the errors that it reports are these problems, in this order (`problems_build`),
* a variant is built exactly if there are none, and it is the one whose fields are what the checks made
  of the fields given (`value_build_eq_some_iff`).
-/

namespace GuestDisks

/-- The problem of a finding; a warning is none. -/
def Finding.problem? : Finding → Option Problem
  | .error p => some p
  | .warning _ => none

/-- The problem with which a check ends, if it does. -/
def Check.problems {α : Type} : Except Problem α → List Problem
  | .ok _ => []
  | .error p => [p]

/-! ## The problems found by checks -/

namespace Checked

variable {α β : Type}

/-- The problems among the findings, in order. -/
def problems (w : Checked α) : List Problem := w.findings.filterMap (·.problem?)

@[simp] theorem problems_pure (a : α) : (pure a : Checked α).problems = [] := rfl

@[simp] theorem problems_map (f : α → β) (x : Checked α) : (f <$> x).problems = x.problems := rfl

/-- The problems of two parts are listed in order, also where the first has no value. -/
@[simp] theorem problems_seq (f : Checked (α → β)) (x : Checked α) :
    (f <*> x).problems = f.problems ++ x.problems := List.filterMap_append

@[simp] theorem problems_seqRight (x : Checked α) (y : Checked β) :
    (x *> y).problems = x.problems ++ y.problems := List.filterMap_append

@[simp] theorem problems_warn (ns : List Notice) : (warn ns).problems = [] := by
  unfold problems
  rw [findings_warn, List.filterMap_map]
  exact List.filterMap_eq_nil_iff.2 fun _ _ => rfl

@[simp] theorem problems_problem (p : Problem) : (problem p : Checked α).problems = [p] := rfl

/-- A check that fails has its one problem. -/
@[simp] theorem problems_ofExcept (e : Except Problem α) : (ofExcept e).problems = Check.problems e := by
  cases e <;> rfl

/-- What is lawfully checked gives a value exactly if there is no problem. -/
theorem Lawful.isSome_iff_problems {P : Finding → Prop} {w : Checked α} (h : Lawful P w) :
    w.value.isSome = true ↔ w.problems = [] := by
  rw [h.isSome_iff]
  unfold problems
  rw [List.filterMap_eq_nil_iff]
  refine forall₂_congr fun f _ => ?_
  cases f <;> simp [Finding.isError, Finding.problem?]

end Checked

/-! ## The problems of fields -/

/-- The problem that a field is missing, if it is empty. -/
def Check.missing (field value : String) : List Problem :=
  if value = "" then [.missingField field] else []

/-- The problem that the value of a field is no good, if a check refuses it. -/
def Check.rejected {α : Type} (field value reason : String) (e : Except Problem α) : List Problem :=
  if e.isOk then [] else [.invalidValue field value reason]

/-- The problems with all limits that are no good: throughputs that are not finite or below zero, then
rates that do not fit 32 bits. -/
def FlatLimits.problems (f : FlatLimits Int) : List Problem :=
  (f.throughputs.filter fun e => !decide e.2.IsBound).map (fun e =>
    .invalidValue e.1 (Check.reals.write e.2) "expected a non-negative number") ++
  (f.rates.filter fun e : String × Int => !decide (0 ≤ e.2 ∧ e.2 < UInt32.size)).map fun e =>
    .invalidValue e.1 (Decimal.ofInt e.2) "expected an integer from 0 to 4294967295"

/-- The problems with settings: those of the texts, and the first with a limit. -/
def Settings.problems (s : Settings) : List Problem :=
  Check.rejected "cache" s.cache "expected one of none, directsync, unsafe, writeback, writethrough"
    (Check.cache s.cache) ++
  Check.rejected "asyncio" s.engine "expected one of native, threads, io_uring" (Check.engine s.engine) ++
  Check.rejected "serial" s.serial "expected at most 60 characters from A-Z, a-z, 0-9, - and _"
    (Check.serial s.serial) ++
  Check.rejected "wwn" s.wwn "expected 0x followed by 16 hexadecimal digits" (Check.wwn s.wwn) ++
  s.limits.problems.take 1

/-- The problems with the fields of a managed disk. -/
def Fields.volumeProblems (f : Fields) : List Problem :=
  Check.missing "storage" f.storage ++
  (if f.size = "" then [.missingField "size"]
    else Check.rejected "size" f.size "expected a positive integer with an optional K, M, G or T suffix"
      (Check.size f.size)) ++
  Check.rejected "format" f.format "expected one of raw, cow, qcow, qed, qcow2, vmdk, cloop"
    (Check.format f.format) ++
  f.settings.problems

/-- The problems with the fields of a host disk. -/
def Fields.hostDiskProblems (f : Fields) : List Problem :=
  Check.missing "disk_file" f.diskFile ++ f.settings.problems

/-- The problems with the fields of a CD drive, which may be empty, but not hold two media. -/
def Fields.mediumProblems (passthrough : Bool) (f : Fields) : List Problem :=
  if f.iso = "" then []
  else if passthrough then [.conflictingFields "iso" "passthrough"]
  else Check.rejected "iso" f.iso "expected <storage>:<path>, e.g. local:iso/image.iso" (Check.iso f.iso)

/-- The problems with a cloud-init drive on a bus and with its fields. -/
def Fields.cloudInitProblems (bus : Bus) (f : Fields) : List Problem :=
  (if bus = .virtio then [.unsupportedOnBus "cloudinit" .virtio] else []) ++
  Check.missing "storage" f.storage

/-- The problems of a request, in the order of the checks of its device. -/
def Request.problems (r : Request) : List Problem :=
  match r.kind, r.passthrough with
  | .disk, false => r.fields.volumeProblems
  | .disk, true => r.fields.hostDiskProblems
  | .cdrom, passthrough => r.fields.mediumProblems passthrough
  | .cloudInit, _ => r.fields.cloudInitProblems r.slot.bus

namespace Check

variable {α β : Type} {raw : String}

/-- A size is reported with its text and what is expected in its place. So it is with each field below. -/
theorem problems_size : problems (size raw) = rejected "size" raw
    "expected a positive integer with an optional K, M, G or T suffix" (size raw) := by
  unfold size
  cases DiskSize.ofText raw <;> rfl

theorem problems_format : problems (format raw) = rejected "format" raw
    "expected one of raw, cow, qcow, qed, qcow2, vmdk, cloop" (format raw) := by
  unfold format
  split
  · rfl
  · cases ofLabel? ImageFormat.label ImageFormat.all raw <;> rfl

theorem problems_cache : problems (cache raw) = rejected "cache" raw
    "expected one of none, directsync, unsafe, writeback, writethrough" (cache raw) := by
  unfold cache
  split
  · rfl
  · cases ofLabel? CacheMode.label CacheMode.all raw <;> rfl

theorem problems_engine : problems (engine raw) = rejected "asyncio" raw
    "expected one of native, threads, io_uring" (engine raw) := by
  unfold engine
  split
  · rfl
  · cases ofLabel? IoEngine.label IoEngine.all raw <;> rfl

theorem problems_serial : problems (serial raw) = rejected "serial" raw
    "expected at most 60 characters from A-Z, a-z, 0-9, - and _" (serial raw) := by
  unfold serial
  split
  · rfl
  · split <;> rfl

theorem problems_wwn : problems (wwn raw) = rejected "wwn" raw
    "expected 0x followed by 16 hexadecimal digits" (wwn raw) := by
  unfold wwn
  split
  · rfl
  · split <;> rfl

theorem problems_iso : problems (iso raw) = rejected "iso" raw
    "expected <storage>:<path>, e.g. local:iso/image.iso" (iso raw) := by
  unfold iso
  split <;> rfl

/-- Of two checks in a row, the second is made if the first finds no problem. -/
theorem problems_bind (e : Except Problem α) (k : α → Except Problem β) {ps : List Problem}
    (hk : ∀ a, problems (k a) = ps.take 1) : problems (e.bind k) = (problems e ++ ps).take 1 := by
  cases e with
  | ok a => exact hk a
  | error p => rfl

/-- A loop over checks ends with the first problem. -/
theorem problems_forM (f : α → Except Problem Unit) (l : List α) :
    problems (l.forM f) = (l.flatMap fun x => problems (f x)).take 1 := by
  induction l with
  | nil => rfl
  | cons x l ih =>
    have hcons : (x :: l).forM f = (f x).bind fun _ => l.forM f := rfl
    rw [hcons, List.flatMap_cons]
    exact problems_bind _ _ fun _ => ih

/-- The problems of a family of checks are those of the members that are bad, in order. -/
theorem flatMap_problems_eq {f : α → Except Problem Unit} {good : α → Prop} [DecidablePred good]
    {problem : α → Problem} (h : ∀ x, f x = if good x then .ok () else .error (problem x)) (l : List α) :
    (l.flatMap fun x => problems (f x)) = (l.filter fun x => !decide (good x)).map problem := by
  induction l with
  | nil => rfl
  | cons x l ih =>
    rw [List.flatMap_cons, ih, h]
    by_cases hx : good x <;> simp [hx, problems]

/-- **The check of limits ends with the problem of the first that is no good.** -/
theorem problems_limits (f : FlatLimits Int) : problems (limits f) = f.problems.take 1 := by
  have hthroughput : ∀ e : String × Binary64, throughput e = if e.2.IsBound then .ok () else
      .error (.invalidValue e.1 (reals.write e.2) "expected a non-negative number") := by
    intro e
    unfold throughput
    by_cases h : e.2.IsBound
    · rw [if_pos h, h.1, h.2]
      rfl
    · -- the check tests for either defect, and a bound is a number with neither
      rw [if_neg h, if_pos]
      unfold Binary64.IsBound at h
      cases hf : e.2.isFinite <;> simp_all
  have hrate : ∀ e : String × Int, rate e = if 0 ≤ e.2 ∧ e.2 < UInt32.size then .ok () else
      .error (.invalidValue e.1 (Decimal.ofInt e.2) "expected an integer from 0 to 4294967295") := by
    intro e
    have hsize : ((UInt32.size : Nat) : Int) = 0xffffffff + 1 := rfl
    unfold rate
    rw [hsize]
    exact if_congr (and_congr_right fun _ => Int.lt_add_one_iff.symm) rfl rfl
  have hrates : ∀ u : Unit, problems ((f.rates.forM rate).bind fun _ =>
      .ok (f.mapRates fun n => UInt32.ofNat n.toNat).grouped) =
        (f.rates.flatMap fun e => problems (rate e)).take 1 := by
    intro u
    have hdone : ∀ _ : Unit, problems (.ok (f.mapRates fun n => UInt32.ofNat n.toNat).grouped) =
        ([] : List Problem).take 1 := fun _ => rfl
    rw [problems_bind _ _ hdone, problems_forM, List.append_nil, List.take_take]
    rfl
  rw [limits_eq_bind, problems_bind _ _ hrates, problems_forM, flatMap_problems_eq hthroughput,
    flatMap_problems_eq hrate]
  unfold FlatLimits.problems
  -- a problem with a throughput comes before all with rates
  cases (f.throughputs.filter fun e => !decide e.2.IsBound) <;> rfl

end Check

namespace Request

open Checked

variable {r : Request}

/-- Of a field that must be given there is a problem if it is empty. -/
@[simp] theorem problems_required (field value : String) :
    (required field value).problems = Check.missing field value := by
  unfold required Check.missing
  split <;> rfl

@[simp] theorem problems_ignored (r : Request) (fields : List String) : (r.ignored fields).problems = [] :=
  problems_warn _

/-- A flag that the bus lacks is no problem but a warning. -/
@[simp] theorem problems_busFlag (r : Request) (field : String) (set supported : Bool) :
    (r.busFlag field set supported).problems = [] := by
  unfold busFlag
  split <;> rfl

/-- The problems with options are those with the settings. -/
theorem problems_options (r : Request) : r.options.problems = r.fields.settings.problems := by
  unfold options Settings.problems
  simp only [problems_seq, problems_map, problems_pure, problems_busFlag, problems_ofExcept,
    List.append_nil, Check.problems_cache, Check.problems_engine, Check.problems_serial,
    Check.problems_wwn, Check.problems_limits]

/-- The problems with a managed disk can be told from its fields. So it is with the other devices. -/
theorem problems_volume (r : Request) : r.volume.problems = r.fields.volumeProblems := by
  have hsize : (size r.fields.size).problems = if r.fields.size = "" then [.missingField "size"]
      else Check.problems (Check.size r.fields.size) := by
    unfold size
    split
    · rfl
    · exact problems_ofExcept _
  simp only [volume, problems_seqRight, problems_ignored, List.nil_append, problems_seq, problems_map,
    problems_required, hsize, problems_ofExcept, Check.problems_size, Check.problems_format,
    problems_options]
  rfl

theorem problems_hostDisk (r : Request) : r.hostDisk.problems = r.fields.hostDiskProblems := by
  simp only [hostDisk, problems_seqRight, problems_ignored, List.nil_append, problems_seq, problems_map,
    problems_required, problems_options]
  rfl

theorem problems_medium (r : Request) : r.medium.problems = r.fields.mediumProblems r.passthrough := by
  simp only [medium, problems_seqRight, problems_ignored, List.nil_append]
  unfold Fields.mediumProblems
  split
  · rfl
  · split
    · rfl
    · rw [problems_map, problems_ofExcept, Check.problems_iso]

theorem problems_cloudInit (r : Request) : r.cloudInit.problems = r.fields.cloudInitProblems r.slot.bus := by
  simp only [cloudInit, problems_seqRight, problems_ignored, List.append_nil, problems_required]
  unfold Fields.cloudInitProblems
  cases r.slot.bus <;> rfl

/-- **Building reports the problems of the request**, all of them and in order. -/
theorem problems_build (r : Request) : r.build.problems = r.problems := by
  have hvolume := r.problems_volume
  have hhostDisk := r.problems_hostDisk
  have hmedium := r.problems_medium
  have hcloudInit := r.problems_cloudInit
  unfold build problems
  cases r.kind with
  | disk =>
    cases hp : r.passthrough with
    | false => exact hvolume
    | true => exact hhostDisk
  | cdrom => exact hmedium
  | cloudInit => exact hcloudInit

end Request

/-! ## What the fields give -/

/-- Settings give options on a bus: each is what its check makes of the setting, backups are made unless
the settings say otherwise, and a flag is set only where the bus supports it. -/
structure Settings.Give (bus : Bus) (s : Settings) (o : DiskOptions) : Prop where
  cache : Check.cache s.cache = .ok o.cache
  engine : Check.engine s.engine = .ok o.engine
  discard : o.discard = s.discard
  replicate : o.replicate = s.replicate
  backup : o.backup = s.backup.getD true
  serial : Check.serial s.serial = .ok o.serial
  wwn : Check.wwn s.wwn = .ok o.wwn
  emulateSsd : o.emulateSsd = (s.emulateSsd && bus.features.emulateSsd)
  ioThread : o.ioThread = (s.ioThread && bus.features.ioThread)
  readOnly : o.readOnly = (s.readOnly && bus.features.readOnly)
  limits : Check.limits s.limits = .ok o.limits

/-- Fields give a managed disk on a bus. -/
structure Fields.GiveVolume (bus : Bus) (f : Fields) (v : Volume) : Prop where
  storage : v.storage = f.storage
  size : Check.size f.size = .ok v.size
  format : Check.format f.format = .ok v.format
  options : f.settings.Give bus v.options

/-- Fields give a host disk on a bus. -/
structure Fields.GiveHostDisk (bus : Bus) (f : Fields) (d : HostDisk) : Prop where
  file : d.file = f.diskFile
  options : f.settings.Give bus d.options

/-- A medium is given by an image, by the flag for the host's drive, or by neither. -/
inductive Fields.GiveMedium (f : Fields) : Bool → Medium → Prop
  | none (h : f.iso = "") : GiveMedium f false .none
  | passthrough (h : f.iso = "") : GiveMedium f true .passthrough
  | iso {storage file : String} (h : Check.iso f.iso = .ok (storage, file)) :
    GiveMedium f false (.iso storage file)

/-- The fields of a request give a variant: it is the device asked for, and each field of it is what the
check of the field makes of it. -/
def Request.Gives (r : Request) (v : Variant) : Prop :=
  match r.kind, r.passthrough with
  | .disk, false => ∃ w, v = .disk w ∧ r.fields.GiveVolume r.slot.bus w
  | .disk, true => ∃ d, v = .passthrough d ∧ r.fields.GiveHostDisk r.slot.bus d
  | .cdrom, passthrough => ∃ m, v = .cdrom m ∧ r.fields.GiveMedium passthrough m
  | .cloudInit, _ => v = .cloudInit r.fields.storage

/-- Settings give one set of options on a bus. -/
theorem Settings.Give.unique {bus : Bus} {s : Settings} {o p : DiskOptions} (ho : s.Give bus o)
    (hp : s.Give bus p) : o = p := by
  have hcache := Except.ok.inj (ho.cache.symm.trans hp.cache)
  have hengine := Except.ok.inj (ho.engine.symm.trans hp.engine)
  have hserial := Except.ok.inj (ho.serial.symm.trans hp.serial)
  have hwwn := Except.ok.inj (ho.wwn.symm.trans hp.wwn)
  have hlimits := Except.ok.inj (ho.limits.symm.trans hp.limits)
  cases o
  cases p
  simp only [DiskOptions.mk.injEq]
  exact ⟨hcache, hengine, ho.discard.trans hp.discard.symm, ho.replicate.trans hp.replicate.symm,
    ho.backup.trans hp.backup.symm, hserial, hwwn, ho.emulateSsd.trans hp.emulateSsd.symm,
    ho.ioThread.trans hp.ioThread.symm, ho.readOnly.trans hp.readOnly.symm, hlimits⟩

namespace Fields

variable {f : Fields} {bus : Bus}

/-- Fields give one managed disk at most, and one of each other device. -/
theorem GiveVolume.unique {v w : Volume} (hv : f.GiveVolume bus v) (hw : f.GiveVolume bus w) : v = w := by
  have hsize := Except.ok.inj (hv.size.symm.trans hw.size)
  have hformat := Except.ok.inj (hv.format.symm.trans hw.format)
  have hoptions := hv.options.unique hw.options
  cases v
  cases w
  simp only [Volume.mk.injEq]
  exact ⟨hv.storage.trans hw.storage.symm, hsize, hformat, hoptions⟩

theorem GiveHostDisk.unique {d e : HostDisk} (hd : f.GiveHostDisk bus d) (he : f.GiveHostDisk bus e) :
    d = e := by
  have hoptions := hd.options.unique he.options
  cases d
  cases e
  simp only [HostDisk.mk.injEq]
  exact ⟨hd.file.trans he.file.symm, hoptions⟩

theorem GiveMedium.unique {passthrough : Bool} {m n : Medium} (hm : f.GiveMedium passthrough m)
    (hn : f.GiveMedium passthrough n) : m = n := by
  -- the text of an image is not empty
  have himage : ∀ storage file, Check.iso f.iso = .ok (storage, file) → f.iso ≠ "" := by
    intro storage file h he
    have hraw := congrArg String.toList (Check.iso_eq_ok_iff.1 h).1
    rw [he] at hraw
    simp at hraw
  cases hm with
  | none h =>
    cases hn with
    | none => rfl
    | iso h' => exact absurd h (himage _ _ h')
  | passthrough h => cases hn; rfl
  | iso h =>
    cases hn with
    | none h' => exact absurd h' (himage _ _ h)
    | iso h' => cases h.symm.trans h'; rfl

end Fields

namespace Request

variable {r : Request} {v w : Variant}

/-- The fields of a request give one variant at most. -/
theorem Gives.unique (hv : r.Gives v) (hw : r.Gives w) : v = w := by
  revert hv hw
  unfold Gives
  cases r.kind with
  | disk =>
    cases r.passthrough with
    | false =>
      rintro ⟨v, rfl, hv⟩ ⟨w, rfl, hw⟩
      rw [hv.unique hw]
    | true =>
      rintro ⟨d, rfl, hd⟩ ⟨e, rfl, he⟩
      rw [hd.unique he]
  | cdrom =>
    rintro ⟨m, rfl, hm⟩ ⟨n, rfl, hn⟩
    rw [hm.unique hn]
  | cloudInit => exact fun hv hw => hv.trans hw.symm

/-- Options are built as the settings give them. -/
theorem give_of_options {o : DiskOptions} (h : r.options.value = some o) :
    r.fields.settings.Give r.slot.bus o := by
  obtain ⟨hcache, hengine, hdiscard, hreplicate, hbackup, hserial, hwwn, hssd, hthread, hro, hlimits⟩ :=
    value_options_eq_some_iff.1 h
  exact ⟨hcache, hengine, hdiscard.symm, hreplicate.symm, hbackup.symm, hserial, hwwn, hssd.symm,
    hthread.symm, hro.symm, hlimits⟩

/-- A managed disk is built as its fields give it, and so are the other devices. -/
theorem giveVolume_of_volume {v : Volume} (h : r.volume.value = some v) :
    r.fields.GiveVolume r.slot.bus v := by
  obtain ⟨⟨hstorage, -⟩, hsize, hformat, hoptions⟩ := value_volume_eq_some_iff.1 h
  exact ⟨hstorage.symm, Check.size_eq_ok_iff.2 hsize, hformat, give_of_options hoptions⟩

theorem giveHostDisk_of_hostDisk {d : HostDisk} (h : r.hostDisk.value = some d) :
    r.fields.GiveHostDisk r.slot.bus d := by
  obtain ⟨⟨hfile, -⟩, hoptions⟩ := value_hostDisk_eq_some_iff.1 h
  exact ⟨hfile.symm, give_of_options hoptions⟩

theorem giveMedium_of_medium {m : Medium} (h : r.medium.value = some m) :
    r.fields.GiveMedium r.passthrough m := by
  rcases value_medium_eq_some_iff.1 h with ⟨hiso, rfl⟩ | ⟨-, hp, p, hiso, rfl⟩
  · cases r.passthrough
    · exact .none hiso
    · exact .passthrough hiso
  · rw [hp]
    exact .iso hiso

/-- What is built is given by the fields. -/
theorem gives_of_build (h : r.build.value = some v) : r.Gives v := by
  have hvolume := @giveVolume_of_volume r
  have hhostDisk := @giveHostDisk_of_hostDisk r
  have hmedium := @giveMedium_of_medium r
  revert h
  unfold build Gives
  cases r.kind with
  | disk =>
    cases hp : r.passthrough with
    | false =>
      intro h
      obtain ⟨w, hw, rfl⟩ := Option.map_eq_some_iff.1 h
      exact ⟨w, rfl, hvolume hw⟩
    | true =>
      intro h
      obtain ⟨d, hd, rfl⟩ := Option.map_eq_some_iff.1 h
      exact ⟨d, rfl, hhostDisk hd⟩
  | cdrom =>
    intro h
    obtain ⟨m, hm, rfl⟩ := Option.map_eq_some_iff.1 h
    exact ⟨m, rfl, hmedium hm⟩
  | cloudInit =>
    intro h
    obtain ⟨storage, hs, rfl⟩ := Option.map_eq_some_iff.1 h
    obtain ⟨-, rfl, -⟩ := value_cloudInit_eq_some_iff.1 hs
    rfl

/-- **A request without problems is built to the variant that its fields give.** -/
theorem value_build_eq_some_iff : r.build.value = some v ↔ r.problems = [] ∧ r.Gives v := by
  have hsome := (lawful_build r).isSome_iff_problems
  rw [problems_build] at hsome
  constructor
  · intro h
    exact ⟨hsome.1 (by rw [h]; rfl), gives_of_build h⟩
  · rintro ⟨hnone, hv⟩
    -- something is built, and the fields give nothing else
    obtain ⟨w, hw⟩ := Option.isSome_iff_exists.1 (hsome.2 hnone)
    rw [hw, (gives_of_build hw).unique hv]

end Request

namespace Assignment

/-- A device that is added to a free slot is reported by what is found in building it. -/
theorem report_add {a : Assignment} {r : Request} (h : r.slot ∉ a.claimed) :
    (a.add r).1.report = a.report ++ .ofFindings r.slot.name r.build.findings := by
  rw [add_eq_settle, report_settle, if_neg h]

end Assignment

/-- **A request is built or all that is wrong with it is said.** Giving a free slot the device of a request
adds to what was reported before, and all that it adds is about the slot. The errors among that are the
problems of the request, in order. The slot gets a variant exactly if there are none, and this is the
variant that the fields give. -/
theorem Request.built_or_explained (r : Request) :
    (∀ a : Assignment, r.slot ∉ a.claimed →
      (a.add r).1.report = a.report ++ .ofFindings r.slot.name r.build.findings ∧
      (a.add r).2 = r.build.value.isSome) ∧
    r.build.problems = r.problems ∧
    (r.build.value.isSome = true ↔ r.build.problems = []) ∧
    ∀ v, r.build.value = some v → r.Gives v := by
  refine ⟨?_, r.problems_build, (lawful_build r).isSome_iff_problems, fun v => gives_of_build⟩
  intro a ha
  refine ⟨Assignment.report_add ha, ?_⟩
  rw [Assignment.snd_add, decide_eq_false ha, Bool.not_false, Bool.true_and]

/-- A disk without a storage, of no size, with an unknown cache mode and two bad limits: of the limits, the
first is reported. -/
theorem Request.built_or_explained_disk :
    let r : Request := ⟨⟨.ide, 0, by decide⟩, .disk, false,
      { size := "0", settings := { cache := "fast", limits :=
        { FlatLimits.unlimited 0 with mbpsWriteBurst := .nan false, iopsReadBurst := -1 } } }⟩
    r.slot ∉ Assignment.empty.claimed ∧ (Assignment.empty.add r).2 = false ∧
      (Assignment.empty.add r).1.report.map (·.message) =
        ["ide0: error: storage is required",
         "ide0: error: invalid value \"0\" for size: expected a positive integer with an optional K, M, G or T suffix",
         "ide0: error: invalid value \"fast\" for cache: expected one of none, directsync, unsafe, writeback, writethrough",
         "ide0: error: invalid value \"NaN\" for mbps_wr_burst: expected a non-negative number"] := by
  intro r
  have hfree : r.slot ∉ Assignment.empty.claimed := List.not_mem_nil
  obtain ⟨hadd, -⟩ := built_or_explained r
  obtain ⟨hreport, hanswer⟩ := hadd Assignment.empty hfree
  refine ⟨hfree, ?_, ?_⟩
  · rw [hanswer]
    decide +kernel
  · rw [hreport]
    decide +kernel

end GuestDisks
