import GuestDisks.Document.Entry
import GuestDisks.Proofs.Checks
import GuestDisks.Request.Build

/-!
# What building gives and reports

A request is built by checks that are made one after another. For the combinators of checks the
value and the findings are computed separately. A composed check is **lawful** when its parts are:
it gives a value exactly when it found no error, and all that it found is of a given sort.

* `build_lawful`: requests are built lawfully, and all that is found concerns the keys that the device
  asked for uses, the supplied keys that it does not use, or its bus (`Request.MayFind`).
* `build_wellFormed`: what is built is well formed on the bus of its slot.
-/

namespace GuestDisks

namespace Checked

variable {α β : Type}

@[simp] theorem value_pure (a : α) : (pure a : Checked α).value = some a := rfl

@[simp] theorem findings_pure (a : α) : (pure a : Checked α).findings = [] := rfl

@[simp] theorem value_map (f : α → β) (x : Checked α) : (f <$> x).value = x.value.map f := rfl

@[simp] theorem findings_map (f : α → β) (x : Checked α) : (f <$> x).findings = x.findings := rfl

@[simp] theorem value_seq (f : Checked (α → β)) (x : Checked α) :
    (f <*> x).value = f.value.bind fun g => x.value.map g := rfl

/-- What two parts of a check find is listed in order, also where the first has no value. -/
@[simp] theorem findings_seq (f : Checked (α → β)) (x : Checked α) :
    (f <*> x).findings = f.findings ++ x.findings := rfl

/-- A value is there only if both parts have one. -/
@[simp] theorem value_seqRight (x : Checked α) (y : Checked β) :
    (x *> y).value = x.value.bind fun _ => y.value := by
  show (x.value.map (Function.const α id)).bind (fun g => y.value.map g) = _
  cases x.value <;> simp

@[simp] theorem findings_seqRight (x : Checked α) (y : Checked β) :
    (x *> y).findings = x.findings ++ y.findings := rfl

@[simp] theorem value_warn (ns : List Notice) : (warn ns).value = some () := rfl

@[simp] theorem findings_warn (ns : List Notice) : (warn ns).findings = ns.map .warning := rfl

/-- Checks obey the laws of applicative functors, so it does not matter how they are grouped. -/
instance : LawfulApplicative Checked where
  map_const := rfl
  id_map x := by
    obtain ⟨v, fs⟩ := x
    cases v <;> rfl
  seqLeft_eq _ _ := rfl
  seqRight_eq _ _ := rfl
  pure_seq _ _ := rfl
  map_pure _ _ := rfl
  seq_pure f a := by
    obtain ⟨v, fs⟩ := f
    cases v <;> exact congrArg (Checked.mk _) (List.append_nil fs)
  seq_assoc x f g := by
    obtain ⟨v, fs⟩ := x
    obtain ⟨w, gs⟩ := f
    obtain ⟨u, hs⟩ := g
    cases u <;> cases w <;> cases v <;> exact congrArg (Checked.mk _) (List.append_assoc hs gs fs).symm

@[simp] theorem value_ofExcept_eq_some_iff {e : Except Problem α} {a : α} :
    (ofExcept e).value = some a ↔ e = .ok a := by
  cases e <;> simp [ofExcept]

/-- A check whose value is there exactly when it found no error, and whose findings are of a sort. -/
structure Lawful (P : Finding → Prop) (w : Checked α) : Prop where
  isSome_iff : w.value.isSome = true ↔ ∀ f ∈ w.findings, f.isError = false
  reports : ∀ f ∈ w.findings, P f

variable {P : Finding → Prop}

theorem Lawful.pure (a : α) : Lawful P (pure a) := ⟨by simp, by simp⟩

theorem Lawful.map {x : Checked α} (f : α → β) (hx : Lawful P x) : Lawful P (f <$> x) :=
  ⟨by rw [value_map, Option.isSome_map, findings_map]; exact hx.isSome_iff, hx.reports⟩

/-- A check is lawful if its parts are. -/
theorem Lawful.seq {f : Checked (α → β)} {x : Checked α} (hf : Lawful P f) (hx : Lawful P x) :
    Lawful P (f <*> x) := by
  refine ⟨?_, fun y hy => ?_⟩
  · rw [findings_seq, List.forall_mem_append, ← hf.isSome_iff, ← hx.isSome_iff, value_seq]
    cases f.value <;> cases x.value <;> simp
  · rw [findings_seq, List.mem_append] at hy
    exact hy.elim (hf.reports y) (hx.reports y)

theorem Lawful.seqRight {x : Checked α} {y : Checked β} (hx : Lawful P x) (hy : Lawful P y) :
    Lawful P (x *> y) := by
  refine ⟨?_, fun z hz => ?_⟩
  · rw [findings_seqRight, List.forall_mem_append, ← hx.isSome_iff, ← hy.isSome_iff, value_seqRight]
    cases x.value <;> cases y.value <;> simp
  · rw [findings_seqRight, List.mem_append] at hz
    exact hz.elim (hx.reports z) (hy.reports z)

theorem Lawful.problem {p : Problem} (h : P (.error p)) : Lawful P (problem p : Checked α) :=
  ⟨by simp [Checked.problem, Finding.isError], by simpa [Checked.problem] using h⟩

theorem Lawful.warn {ns : List Notice} (h : ∀ n ∈ ns, P (.warning n)) : Lawful P (warn ns) :=
  ⟨by simp [Finding.isError], by simpa using h⟩

theorem Lawful.ofExcept {e : Except Problem α} (h : ∀ p, e = .error p → P (.error p)) :
    Lawful P (ofExcept e) := by
  cases e with
  | ok a => exact Lawful.pure a
  | error p => exact Lawful.problem (h p rfl)

end Checked

/-! ## The problems of fields -/

/-- A problem with the value of a field. -/
def Problem.IsOfField (field : String) (p : Problem) : Prop :=
  ∃ value reason, p = .invalidValue field value reason

namespace Check

variable {raw : String} {p : Problem}

/-- What is wrong with a text is reported as the value of its own field. So it is with each field below. -/
theorem isOfField_of_size (h : size raw = .error p) : p.IsOfField "size" := by
  unfold size at h
  cases hs : DiskSize.ofText raw with
  | ok z => rw [hs] at h; cases h
  | error e => rw [hs] at h; cases h; exact ⟨_, _, rfl⟩

theorem isOfField_of_format (h : format raw = .error p) : p.IsOfField "format" := by
  unfold format at h
  split at h
  · cases h
  · split at h <;> cases h
    exact ⟨_, _, rfl⟩

theorem isOfField_of_cache (h : cache raw = .error p) : p.IsOfField "cache" := by
  unfold cache at h
  split at h
  · cases h
  · split at h <;> cases h
    exact ⟨_, _, rfl⟩

theorem isOfField_of_engine (h : engine raw = .error p) : p.IsOfField "asyncio" := by
  unfold engine at h
  split at h
  · cases h
  · split at h <;> cases h
    exact ⟨_, _, rfl⟩

theorem isOfField_of_serial (h : serial raw = .error p) : p.IsOfField "serial" := by
  unfold serial at h
  split at h
  · cases h
  · split at h <;> cases h
    exact ⟨_, _, rfl⟩

theorem isOfField_of_wwn (h : wwn raw = .error p) : p.IsOfField "wwn" := by
  unfold wwn at h
  split at h
  · cases h
  · split at h <;> cases h
    exact ⟨_, _, rfl⟩

theorem isOfField_of_iso (h : iso raw = .error p) : p.IsOfField "iso" := by
  unfold iso at h
  split at h <;> cases h
  exact ⟨_, _, rfl⟩

/-- A loop over checks ends with the problem of one of them. -/
theorem exists_of_forM_eq_error {α : Type} {f : α → Except Problem Unit} {l : List α}
    (h : l.forM f = .error p) : ∃ x ∈ l, f x = .error p := by
  induction l with
  | nil => cases h
  | cons x l ih =>
    have hcons : (x :: l).forM f = (f x).bind fun _ => l.forM f := rfl
    rw [hcons] at h
    cases hx : f x with
    | error q => rw [hx] at h; cases h; exact ⟨x, List.mem_cons_self, hx⟩
    | ok u =>
      rw [hx] at h
      obtain ⟨y, hy, hp⟩ := ih h
      exact ⟨y, List.mem_cons_of_mem _ hy, hp⟩

/-- The problem with limits is that of one of the ten keys. -/
theorem isOfField_of_limits {f : FlatLimits Int} (h : limits f = .error p) :
    ∃ key ∈ f.throughputs.map (·.1) ++ f.rates.map (·.1), p.IsOfField key := by
  rw [limits_eq_bind] at h
  simp only [List.mem_append, List.mem_map]
  cases ht : f.throughputs.forM throughput with
  | error q =>
    rw [ht] at h; cases h
    obtain ⟨x, hx, hp⟩ := exists_of_forM_eq_error ht
    unfold throughput at hp
    split at hp <;> cases hp
    exact ⟨x.1, .inl ⟨x, hx, rfl⟩, _, _, rfl⟩
  | ok u =>
    cases hr : f.rates.forM rate with
    | error q =>
      rw [ht, hr] at h; cases h
      obtain ⟨x, hx, hp⟩ := exists_of_forM_eq_error hr
      unfold rate at hp
      split at hp <;> cases hp
      exact ⟨x.1, .inr ⟨x, hx, rfl⟩, _, _, rfl⟩
    | ok u => rw [ht, hr] at h; cases h

end Check

/-- A finding that concerns the device of one slot, and not how slots are named or shared. -/
def Finding.IsOfDevice : Finding → Prop
  | .error (.invalidValue _ _ _) | .error (.missingField _) | .error (.unsupportedOnBus _ _)
  | .error (.conflictingFields _ _) => True
  | .error (.duplicateSlot _) | .error (.unknownSlot _ _) | .error .conflictingBlocks => False
  | .warning (.fieldIgnored _ _) | .warning (.unsupportedOnBus _ _) => True
  | .warning (.unknownField _) => False

/-- A variant is the device that a kind asks for, `passthrough` telling the two sorts of disk
apart. -/
def Variant.IsOf (kind : Kind) (passthrough : Bool) : Variant → Prop
  | .disk _ => kind = .disk ∧ passthrough = false
  | .passthrough _ => kind = .disk ∧ passthrough = true
  | .cdrom _ => kind = .cdrom
  | .cloudInit _ => kind = .cloudInit
  | .delete | .unchanged => False

instance (kind : Kind) (passthrough : Bool) (v : Variant) : Decidable (v.IsOf kind passthrough) := by
  cases v <;> unfold Variant.IsOf <;> infer_instance

/-- What is of some kind is a device. -/
theorem Variant.IsOf.isEmpty {kind : Kind} {passthrough : Bool} {v : Variant} (h : v.IsOf kind passthrough) :
    v.isEmpty = false := by
  cases v with
  | delete => exact h.elim
  | unchanged => exact h.elim
  | _ => rfl

/-! ## The keys of what a user supplies -/

/-- The keys of limits are among those of settings. -/
theorem Settings.mem_keys_of_limits {ρ : Type} {f : FlatLimits ρ} {key : String}
    (h : key ∈ f.throughputs.map (·.1) ++ f.rates.map (·.1)) : key ∈ keys := by
  -- which keys these are does not depend on the values
  have hall : ∀ key ∈ ["mbps_r_burst", "mbps_r_concurrent", "mbps_wr_burst", "mbps_wr_concurrent",
      "iops_r_burst", "iops_r_burst_length", "iops_r_concurrent", "iops_wr_burst",
      "iops_wr_burst_length", "iops_wr_concurrent"], key ∈ keys := by decide
  exact hall key h

/-- The settings that are given have keys of settings. -/
theorem Settings.populated_subset (s : Settings) : s.populated ⊆ keys := by
  have htexts : ∀ key ∈ ["cache", "asyncio", "serial", "wwn"], key ∈ keys := by decide
  have hflags : ∀ key ∈ ["discard", "replicate", "backup", "emulatessd", "iothread", "readonly"],
      key ∈ keys := by decide
  have hfilter : ∀ {α : Type} (p : String × α → Bool) (es : List (String × α)),
      (es.filter p).map (·.1) ⊆ es.map (·.1) := fun p es => List.map_subset _ (List.filter_subset_self ..)
  intro key h
  rcases List.mem_append.1 h with h | h
  · rcases List.mem_append.1 h with h | h
    · rcases List.mem_append.1 h with h | h
      · exact htexts key (hfilter _ _ h)
      · exact hflags key (hfilter _ _ h)
    · exact mem_keys_of_limits (List.mem_append_left _ (hfilter _ _ h))
  · exact mem_keys_of_limits (f := s.limits) (List.mem_append_right _ (hfilter _ _ h))

/-- The keys of the fields beside the settings. -/
def Fields.keys : List String := ["storage", "size", "format", "iso", "disk_file"]

/-- The fields that are given beside the settings have keys of their own. -/
theorem Fields.populated_subset (f : Fields) : f.populated ⊆ keys :=
  List.map_subset _ (List.filter_subset_self f.texts)

namespace Request

open Checked

/-- The keys that a user supplied with a request. -/
def supplied (r : Request) : List String :=
  r.fields.populated ++ r.fields.settings.populated ++ if r.passthrough then ["passthrough"] else []

/-- The keys that the device asked for uses. -/
def uses (r : Request) : List String :=
  match r.kind, r.passthrough with
  | .disk, false => ["storage", "size", "format"] ++ Settings.keys
  | .disk, true => ["disk_file", "passthrough"] ++ Settings.keys
  | .cdrom, _ => ["iso", "passthrough"]
  | .cloudInit, _ => ["storage"]

/-- What may be found in building the device of a request. -/
inductive MayFind (r : Request) : Finding → Prop
  | invalidValue {field value reason : String} (h : field ∈ r.uses) :
    MayFind r (.error (.invalidValue field value reason))
  | missingField {field : String} (h : field ∈ r.uses) : MayFind r (.error (.missingField field))
  | noCloudInit (hk : r.kind = .cloudInit) (hb : r.slot.bus = .virtio) :
    MayFind r (.error (.unsupportedOnBus "cloudinit" .virtio))
  | twoMedia (hk : r.kind = .cdrom) (hp : r.passthrough = true) (hi : r.fields.iso ≠ "") :
    MayFind r (.error (.conflictingFields "iso" "passthrough"))
  | unused {field : String} (hs : field ∈ r.supplied) (hu : field ∉ r.uses) :
    MayFind r (.warning (.fieldIgnored field r.deviceName))
  | droppedFlag {field : String} (h : field ∈ ["emulatessd", "iothread", "readonly"]) :
    MayFind r (.warning (.unsupportedOnBus field r.slot.bus))

/-- What may be found about a request concerns its device. -/
theorem MayFind.isOfDevice {r : Request} {f : Finding} (h : r.MayFind f) : f.IsOfDevice := by
  cases h <;> trivial

variable {r : Request}

/-- A problem may be found with any field that is used. -/
theorem MayFind.ofField {field : String} {p : Problem} (h : field ∈ r.uses) (hp : p.IsOfField field) :
    r.MayFind (.error p) := by
  obtain ⟨value, reason, rfl⟩ := hp
  exact .invalidValue h

theorem uses_volume (hk : r.kind = .disk) (hp : r.passthrough = false) :
    r.uses = ["storage", "size", "format"] ++ Settings.keys := by
  unfold uses; rw [hk, hp]

theorem uses_hostDisk (hk : r.kind = .disk) (hp : r.passthrough = true) :
    r.uses = ["disk_file", "passthrough"] ++ Settings.keys := by
  unfold uses; rw [hk, hp]

theorem uses_medium (hk : r.kind = .cdrom) : r.uses = ["iso", "passthrough"] := by
  unfold uses; rw [hk]

theorem uses_cloudInit (hk : r.kind = .cloudInit) : r.uses = ["storage"] := by
  unfold uses; rw [hk]

/-- Of a field that must be given nothing is found but that it is missing. -/
theorem lawful_required {field : String} (h : field ∈ r.uses) (value : String) :
    Lawful r.MayFind (required field value) := by
  unfold required
  split
  · exact .problem (.missingField h)
  · exact .pure _

/-- Of fields that are given in vain nothing is found but that. -/
theorem lawful_ignored {fields : List String} (h : ∀ field ∈ fields, field ∈ r.supplied ∧ field ∉ r.uses) :
    Lawful r.MayFind (r.ignored fields) := by
  refine .warn fun n hn => ?_
  obtain ⟨field, hf, rfl⟩ := List.mem_map.1 hn
  exact .unused (h field hf).1 (h field hf).2

/-- Of a flag nothing is found but that the bus lacks it. -/
theorem lawful_busFlag {field : String} (h : field ∈ ["emulatessd", "iothread", "readonly"])
    (set supported : Bool) : Lawful r.MayFind (r.busFlag field set supported) := by
  unfold busFlag
  split
  · refine .map _ (.warn fun n hn => ?_)
    obtain rfl := List.mem_singleton.1 hn
    exact .droppedFlag h
  · exact .pure _

theorem lawful_size (h : "size" ∈ r.uses) (raw : String) : Lawful r.MayFind (size raw) := by
  unfold size
  split
  · exact .problem (.missingField h)
  · exact .ofExcept fun p hp => .ofField h (Check.isOfField_of_size hp)

/-- What is found about settings is about fields that are used, or flags that the bus lacks. -/
theorem lawful_options (h : Settings.keys ⊆ r.uses) : Lawful r.MayFind r.options := by
  have hlimits : ∀ p, Check.limits r.fields.settings.limits = .error p → r.MayFind (.error p) := by
    intro p hp
    obtain ⟨key, hkey, hp⟩ := Check.isOfField_of_limits hp
    exact .ofField (h (Settings.mem_keys_of_limits hkey)) hp
  refine .seq (.seq (.seq (.seq (.seq (.seq (.seq (.seq (.seq (.seq (.map _ ?cache) ?engine) (.pure _))
    (.pure _)) (.pure _)) ?serial) ?wwn) (lawful_busFlag ?ssd ..)) (lawful_busFlag ?thread ..))
    (lawful_busFlag ?ro ..)) (.ofExcept hlimits)
  case cache => exact .ofExcept fun p hp => .ofField (h (by decide)) (Check.isOfField_of_cache hp)
  case engine => exact .ofExcept fun p hp => .ofField (h (by decide)) (Check.isOfField_of_engine hp)
  case serial => exact .ofExcept fun p hp => .ofField (h (by decide)) (Check.isOfField_of_serial hp)
  case wwn => exact .ofExcept fun p hp => .ofField (h (by decide)) (Check.isOfField_of_wwn hp)
  all_goals decide

/-- A supplied key that passes a filter which lets no used key pass is rightly called unused. -/
theorem ignored_filter {p : String → Bool} (h : ∀ field ∈ Fields.keys, p field = true → field ∉ r.uses) :
    ∀ field ∈ r.fields.populated.filter p, field ∈ r.supplied ∧ field ∉ r.uses := by
  intro field hf
  obtain ⟨hf, hp⟩ := List.mem_filter.1 hf
  refine ⟨?_, h field (r.fields.populated_subset hf) hp⟩
  exact List.mem_append_left _ (List.mem_append_left _ hf)

theorem ignored_settings (h : ∀ field ∈ Settings.keys, field ∉ r.uses) :
    ∀ field ∈ r.fields.settings.populated, field ∈ r.supplied ∧ field ∉ r.uses := by
  intro field hf
  refine ⟨?_, h field (r.fields.settings.populated_subset hf)⟩
  exact List.mem_append_left _ (List.mem_append_right _ hf)

/-- The check of a managed disk is lawful, and so are those of the other devices below. -/
theorem lawful_volume (hk : r.kind = .disk) (hp : r.passthrough = false) :
    Lawful r.MayFind r.volume := by
  have huses := uses_volume hk hp
  have hmem : ∀ field ∈ ["storage", "size", "format"] ++ Settings.keys, field ∈ r.uses := by
    rw [huses]; exact fun _ => id
  refine .seqRight (lawful_ignored (ignored_filter ?_)) (.seq (.seq (.seq (.map _ (lawful_required ?_ _))
    (lawful_size ?_ _)) (.ofExcept fun p hp => .ofField ?_ (Check.isOfField_of_format hp)))
    (lawful_options ?_))
  · rw [huses]; decide
  · exact hmem _ (by decide)
  · exact hmem _ (by decide)
  · exact hmem _ (by decide)
  · exact fun key h => hmem key (List.mem_append_right _ h)

theorem lawful_hostDisk (hk : r.kind = .disk) (hp : r.passthrough = true) :
    Lawful r.MayFind r.hostDisk := by
  have huses := uses_hostDisk hk hp
  refine .seqRight (lawful_ignored (ignored_filter ?_)) (.seq (.map _ (lawful_required ?_ _))
    (lawful_options ?_))
  · rw [huses]; decide
  · rw [huses]; decide
  · rw [huses]; exact List.subset_append_right ..

theorem lawful_medium (hk : r.kind = .cdrom) : Lawful r.MayFind r.medium := by
  have huses := uses_medium hk
  refine .seqRight (.seqRight (lawful_ignored (ignored_filter ?_)) (lawful_ignored (ignored_settings ?_))) ?_
  · rw [huses]; decide
  · rw [huses]; decide
  · split
    · exact .pure _
    · split
      · exact .problem (.twoMedia hk ‹_› ‹_›)
      · exact .map _ (.ofExcept fun p hp => .ofField (by rw [huses]; decide) (Check.isOfField_of_iso hp))

theorem lawful_cloudInit (hk : r.kind = .cloudInit) : Lawful r.MayFind r.cloudInit := by
  have huses := uses_cloudInit hk
  refine .seqRight (.seqRight (.seqRight (.seqRight ?_ (lawful_ignored (ignored_filter ?_)))
    (lawful_ignored ?_)) (lawful_ignored (ignored_settings ?_))) (lawful_required ?_ _)
  · -- virtio is the one bus that has no cloud-init drives
    split
    · exact .pure _
    · rename_i h
      have hb : r.slot.bus = .virtio := by
        revert h
        cases r.slot.bus <;> decide
      rw [hb]
      exact .problem (.noCloudInit hk hb)
  · rw [huses]; decide
  · intro field hf
    rw [huses]
    split at hf
    · rename_i hp
      obtain rfl := List.mem_singleton.1 hf
      exact ⟨by simp [supplied, hp], by decide⟩
    · cases hf
  · rw [huses]; decide
  · rw [huses]; decide

/-- **Building a request finds only what may be found about it**, and there is a device exactly if no error
was found. -/
theorem lawful_build (r : Request) : Lawful r.MayFind r.build := by
  unfold build
  split
  · exact .map _ (lawful_volume ‹_› ‹_›)
  · exact .map _ (lawful_hostDisk ‹_› ‹_›)
  · exact .map _ (lawful_medium ‹_›)
  · exact .map _ (lawful_cloudInit ‹_›)

/-- **Requests are built lawfully**: there is a variant exactly when no error was found, and the
findings concern the device alone. -/
theorem build_lawful (r : Request) : Lawful Finding.IsOfDevice r.build :=
  ⟨(lawful_build r).isSome_iff, fun f hf => ((lawful_build r).reports f hf).isOfDevice⟩

/-! ## What is built -/

/-- A field that must be given is taken as it is, unless it is empty. -/
theorem value_required_eq_some_iff {field value s : String} :
    (required field value).value = some s ↔ value = s ∧ s ≠ "" := by
  unfold required
  split
  · rename_i h
    subst h
    simp only [problem, reduceCtorEq, false_iff, not_and, not_not]
    exact fun h => h.symm
  · rename_i h
    simp only [value_pure, Option.some.injEq]
    exact ⟨fun he => ⟨he, he ▸ h⟩, fun he => he.1⟩

@[simp] theorem value_ignored (r : Request) (fields : List String) :
    (r.ignored fields).value = some () := rfl

/-- A flag takes effect only where the bus supports it. -/
@[simp] theorem value_busFlag (r : Request) (field : String) (set supported : Bool) :
    (r.busFlag field set supported).value = some (set && supported) := by
  unfold busFlag
  cases set <;> cases supported <;> rfl

/-- A size is accepted if it reads as some number of kibibytes other than zero. -/
theorem value_size_eq_some_iff {raw : String} {z : DiskSize} :
    (size raw).value = some z ↔ Size.parse raw = z.kib ∧ 0 < z.kib := by
  unfold size
  split
  · rename_i h
    subst h
    simp only [problem, reduceCtorEq, Size.parse_empty, false_iff, not_and]
    intro h; rw [← h]; decide
  · rw [value_ofExcept_eq_some_iff, Check.size_eq_ok_iff]

/-- The options built are those that every check gave, as far as the bus supports them. -/
theorem value_options_eq_some_iff {r : Request} {o : DiskOptions} : r.options.value = some o ↔
    Check.cache r.fields.settings.cache = .ok o.cache ∧
    Check.engine r.fields.settings.engine = .ok o.engine ∧
    r.fields.settings.discard = o.discard ∧ r.fields.settings.replicate = o.replicate ∧
    r.fields.settings.backup.getD true = o.backup ∧
    Check.serial r.fields.settings.serial = .ok o.serial ∧
    Check.wwn r.fields.settings.wwn = .ok o.wwn ∧
    (r.fields.settings.emulateSsd && r.slot.bus.features.emulateSsd) = o.emulateSsd ∧
    (r.fields.settings.ioThread && r.slot.bus.features.ioThread) = o.ioThread ∧
    (r.fields.settings.readOnly && r.slot.bus.features.readOnly) = o.readOnly ∧
    Check.limits r.fields.settings.limits = .ok o.limits := by
  obtain ⟨cache, engine, discard, replicate, backup, serial, wwn, ssd, thread, ro, limits⟩ := o
  simp only [options, value_seq, value_map, value_pure, value_busFlag, Option.bind_eq_some_iff,
    Option.map_eq_some_iff, value_ofExcept_eq_some_iff, exists_exists_and_eq_and, Option.some.injEq,
    exists_eq_left']
  constructor
  · rintro ⟨_, ⟨_, ⟨_, ⟨_, hc, _, he, rfl⟩, _, hs, rfl⟩, _, hw, rfl⟩, _, hl, h⟩
    cases h
    exact ⟨hc, he, rfl, rfl, rfl, hs, hw, rfl, rfl, rfl, hl⟩
  · rintro ⟨hc, he, rfl, rfl, rfl, hs, hw, rfl, rfl, rfl, hl⟩
    exact ⟨_, ⟨_, ⟨_, ⟨_, hc, _, he, rfl⟩, _, hs, rfl⟩, _, hw, rfl⟩, _, hl, rfl⟩

/-- A managed disk is built field by field, and needs a storage and a size. -/
theorem value_volume_eq_some_iff {r : Request} {v : Volume} : r.volume.value = some v ↔
    (r.fields.storage = v.storage ∧ v.storage ≠ "") ∧
    (Size.parse r.fields.size = v.size.kib ∧ 0 < v.size.kib) ∧
    Check.format r.fields.format = .ok v.format ∧ r.options.value = some v.options := by
  obtain ⟨storage, size, format, options⟩ := v
  simp only [volume, value_seqRight, value_ignored, Option.bind_some, value_seq, value_map,
    Option.bind_eq_some_iff, Option.map_eq_some_iff, value_ofExcept_eq_some_iff,
    value_required_eq_some_iff, value_size_eq_some_iff]
  constructor
  · rintro ⟨_, ⟨_, ⟨_, ⟨_, hst, rfl⟩, _, hsz, rfl⟩, _, hf, rfl⟩, _, ho, h⟩
    cases h
    exact ⟨hst, hsz, hf, ho⟩
  · rintro ⟨hst, hsz, hf, ho⟩
    exact ⟨_, ⟨_, ⟨_, ⟨_, hst, rfl⟩, _, hsz, rfl⟩, _, hf, rfl⟩, _, ho, rfl⟩

/-- A host disk is built from its path and its options. -/
theorem value_hostDisk_eq_some_iff {r : Request} {d : HostDisk} : r.hostDisk.value = some d ↔
    (r.fields.diskFile = d.file ∧ d.file ≠ "") ∧ r.options.value = some d.options := by
  obtain ⟨file, options⟩ := d
  simp only [hostDisk, value_seqRight, value_ignored, Option.bind_some, value_seq, value_map,
    Option.bind_eq_some_iff, Option.map_eq_some_iff, value_required_eq_some_iff]
  constructor
  · rintro ⟨_, ⟨_, hf, rfl⟩, _, ho, h⟩
    cases h
    exact ⟨hf, ho⟩
  · rintro ⟨hf, ho⟩
    exact ⟨_, ⟨_, hf, rfl⟩, _, ho, rfl⟩

/-- A CD drive is empty or the host's without an image, and has the image otherwise; it cannot be the host's
and have one. -/
theorem value_medium_eq_some_iff {r : Request} {m : Medium} : r.medium.value = some m ↔
    (r.fields.iso = "" ∧ m = if r.passthrough then .passthrough else .none) ∨
    (r.fields.iso ≠ "" ∧ r.passthrough = false ∧
      ∃ p, Check.iso r.fields.iso = .ok p ∧ m = .iso p.1 p.2) := by
  simp only [medium, value_seqRight, value_ignored, Option.bind_some]
  split
  · rename_i h
    simp only [value_pure, Option.some.injEq, h, ne_eq, not_true_eq_false, false_and, or_false, true_and]
    exact eq_comm
  · rename_i h
    simp only [h, ne_eq, not_false_eq_true, false_and, false_or, true_and]
    cases hp : r.passthrough
    · simp only [Bool.false_eq_true, if_false, value_map, Option.map_eq_some_iff,
        value_ofExcept_eq_some_iff, true_and]
      exact ⟨fun ⟨p, hp, he⟩ => ⟨p, hp, he.symm⟩, fun ⟨p, hp, he⟩ => ⟨p, hp, he.symm⟩⟩
    · simp [problem]

/-- A cloud-init drive needs a storage, and a bus that takes it. -/
theorem value_cloudInit_eq_some_iff {r : Request} {storage : String} :
    r.cloudInit.value = some storage ↔
      r.slot.bus ≠ .virtio ∧ r.fields.storage = storage ∧ storage ≠ "" := by
  have hbus : r.slot.bus.accepts .cloudInit = true ↔ r.slot.bus ≠ .virtio := by
    cases r.slot.bus <;> decide
  simp only [cloudInit, value_seqRight, value_ignored]
  split
  · rename_i h
    simp [hbus.1 h, value_required_eq_some_iff]
  · rename_i h
    have hb : r.slot.bus = .virtio := by simpa [hbus] using h
    simp [problem, hb]

/-- What is built is the device asked for. -/
theorem build_isOf {r : Request} {v : Variant} (h : r.build.value = some v) :
    v.IsOf r.kind r.passthrough := by
  unfold build at h
  split at h <;> rw [value_map, Option.map_eq_some_iff] at h <;> obtain ⟨w, -, rfl⟩ := h
  · exact ⟨‹r.kind = .disk›, ‹r.passthrough = false›⟩
  · exact ⟨‹r.kind = .disk›, ‹r.passthrough = true›⟩
  · exact ‹r.kind = .cdrom›
  · exact ‹r.kind = .cloudInit›

/-- The options built are well formed. -/
theorem wellFormedOn_of_options {r : Request} {o : DiskOptions} (h : r.options.value = some o) :
    o.WellFormedOn r.slot.bus := by
  obtain ⟨-, -, -, -, -, hs, hw, he, ht, hr, hl⟩ := value_options_eq_some_iff.1 h
  refine ⟨(Check.serial_eq_ok_iff.1 hs).2, (Check.wwn_eq_ok_iff.1 hw).2, ?_, ?_, ?_,
    (Check.limits_eq_ok_iff.1 hl).2⟩
  · rw [← he, Bool.and_eq_true]; exact And.right
  · rw [← ht, Bool.and_eq_true]; exact And.right
  · rw [← hr, Bool.and_eq_true]; exact And.right

/-- **What is built is well formed.** -/
theorem build_wellFormed {r : Request} {v : Variant} (h : r.build.value = some v) :
    v.WellFormedOn r.slot.bus := by
  unfold build at h
  split at h <;> rw [value_map, Option.map_eq_some_iff] at h
  · obtain ⟨w, hw, rfl⟩ := h
    obtain ⟨⟨-, hst⟩, ⟨-, hsz⟩, -, ho⟩ := value_volume_eq_some_iff.1 hw
    exact ⟨hst, hsz, wellFormedOn_of_options ho⟩
  · obtain ⟨d, hd, rfl⟩ := h
    obtain ⟨⟨-, hf⟩, ho⟩ := value_hostDisk_eq_some_iff.1 hd
    exact ⟨hf, wellFormedOn_of_options ho⟩
  · obtain ⟨m, hm, rfl⟩ := h
    rcases value_medium_eq_some_iff.1 hm with ⟨-, rfl⟩ | ⟨-, -, p, hp, rfl⟩
    · split <;> trivial
    · exact (Check.iso_eq_ok_iff.1 hp).2
  · obtain ⟨storage, hs, rfl⟩ := h
    obtain ⟨hb, -, hst⟩ := value_cloudInit_eq_some_iff.1 hs
    exact ⟨hst, hb⟩

end Request

end GuestDisks
