import GuestDisks.Proofs.Rendering

/-!
# Two surfaces, one meaning

A device can be described on either surface. The list puts all of an entry's fields side by side, the
map gives each sort of device a sub-table of its own; a `Description` holds what can be said on both.

* `surfaces_agree`: devices described slot by slot are read alike from both surfaces, whatever the
  values are, and nothing that was supplied goes unused.
* `encodings_agree`: what is written for a configuration, well formed or not, is read alike from both
  surfaces, and few sorts of finding are left.
-/

namespace GuestDisks

open Assignment Data

/-- A device as a user can describe it on either surface: a sub-table of the map and the values of its
keys, which may be anything. -/
inductive Description
  | disk (storage size format : String) (settings : Settings)
  | hostDisk (file : String) (settings : Settings)
  | drive (iso : String) (passthrough : Bool)
  | cloudInit (storage : String)

namespace Description

def kind : Description → Kind
  | disk .. | hostDisk .. => .disk
  | drive .. => .cdrom
  | cloudInit .. => .cloudInit

/-- Whether a list entry for the device has its flag `passthrough` set. -/
def passthrough : Description → Bool
  | disk .. | cloudInit .. => false
  | hostDisk .. => true
  | drive _ passthrough => passthrough

/-- The fields of a list entry for the device. -/
def fields : Description → Fields
  | disk storage size format settings => { storage, size, format, settings }
  | hostDisk file settings => { diskFile := file, settings }
  | drive iso _ => { iso }
  | cloudInit storage => { storage }

/-- The device asked for in a slot. -/
def request (s : Slot) (d : Description) : Request := ⟨s, d.kind, d.passthrough, d.fields⟩

/-- The list entry that describes the device. -/
def entry (s : Slot) (d : Description) : Entry where
  slot := s.name
  kind := d.kind.label
  passthrough := d.passthrough
  fields := d.fields

/-- The sort of sub-table that describes the device. -/
def block : Description → Block
  | disk .. => .disk
  | hostDisk .. => .passthrough
  | drive .. => .cdrom
  | cloudInit .. => .cloudInit

/-- The slot table that describes the device, by one sub-table. -/
def table : Description → SlotTable
  | disk storage size format settings => { disk := some { storage, size, format, settings } }
  | hostDisk file settings => { passthrough := some { file, settings } }
  | drive iso passthrough => { cdrom := some { iso, passthrough } }
  | cloudInit storage => { cloudInit := some { storage } }

/-- The description that is written for a variant; the markers have none. -/
def ofVariant : Variant → Option Description
  | .disk v => some (disk v.storage v.size.text v.format.label (.ofOptions v.options))
  | .passthrough d => some (hostDisk d.file (.ofOptions d.options))
  | .cdrom m => some (drive (Fields.ofMedium m).iso (m == .passthrough))
  | .cloudInit storage => some (cloudInit storage)
  | .delete | .unchanged => none

/-- What is written for a variant asks for the device that is described. -/
theorem request_ofVariant (s : Slot) (v : Variant) :
    Request.ofVariant s v = (ofVariant v).map (·.request s) := by
  rcases v with _ | _ | (_ | _ | _) | _ | _ | _ <;> rfl

/-- An entry asks for the device that it describes. -/
theorem steps_entry (position : Nat) (s : Slot) (d : Description) :
    (d.entry s).steps position = [.add (d.request s)] := by
  unfold Entry.steps
  have hslot : Slot.ofName (d.entry s).slot = .ok s := Slot.ofName_name s
  have hclaim : (d.entry s).claim s = .add (d.request s) := by cases d <;> rfl
  simp only [hslot, hclaim]
  rfl

/-- So does a table. -/
theorem steps_table (s : Slot) (d : Description) : d.table.steps s = [.add (d.request s)] := by
  cases d <;> rfl

theorem reports_table (s : Slot) (d : Description) :
    d.table.reports s = .ofFindings s.name (d.request s).build.findings := by
  cases d <;> rfl

/-- A described table wants the device of its description. -/
theorem wanted_table (s : Slot) (d : Description) : d.table.wanted s = some (d.request s).build := by
  cases d <;> rfl

/-- The keys that an entry for the device can show, its settings apart. -/
def keys : Description → List String
  | disk .. => ["storage", "size", "format"]
  | hostDisk .. => ["disk_file"]
  | drive .. => ["iso"]
  | cloudInit .. => ["storage"]

/-- Only keys of the device's own sub-table are given a value. -/
theorem populated_subset (d : Description) : d.fields.populated ⊆ d.keys := by
  intro key h
  obtain ⟨⟨k, value⟩, he, rfl⟩ := List.mem_map.1 h
  obtain ⟨hm, hv⟩ := List.mem_filter.1 he
  have hne : value ≠ "" := by simpa using hv
  unfold Fields.texts at hm
  cases d <;> simp only [fields, List.mem_cons, Prod.mk.injEq, List.not_mem_nil, or_false] at hm <;>
    simp only [keys, List.mem_cons, List.not_mem_nil, or_false] <;> tauto

/-- A described device uses every key that was supplied for it. -/
theorem supplied_subset (s : Slot) (d : Description) : (d.request s).supplied ⊆ (d.request s).uses := by
  have htexts : d.fields.populated ⊆ (d.request s).uses := by
    refine List.Subset.trans d.populated_subset ?_
    cases d with
    | disk => exact List.subset_append_left ..
    | hostDisk => exact List.cons_subset.2 ⟨List.mem_cons_self, List.nil_subset _⟩
    | drive => exact List.cons_subset.2 ⟨List.mem_cons_self, List.nil_subset _⟩
    | cloudInit => exact List.Subset.refl _
  -- only the two sorts of disk have settings, and these use them all
  have hsettings : d.fields.settings.populated ⊆ (d.request s).uses := by
    cases d with
    | disk _ _ _ settings =>
      exact List.Subset.trans settings.populated_subset (List.subset_append_right ..)
    | hostDisk _ settings =>
      exact List.Subset.trans settings.populated_subset (List.subset_append_right ..)
    | drive => exact List.nil_subset _
    | cloudInit => exact List.nil_subset _
  have hflag : (if d.passthrough then ["passthrough"] else []) ⊆ (d.request s).uses := by
    split
    · rename_i hp
      rw [List.cons_subset]
      refine ⟨?_, List.nil_subset _⟩
      cases d with
      | disk => cases hp
      | hostDisk => exact List.mem_append_left _ (List.mem_cons_of_mem _ List.mem_cons_self)
      | drive => exact List.mem_cons_of_mem _ List.mem_cons_self
      | cloudInit => cases hp
    · exact List.nil_subset _
  exact List.append_subset.2 ⟨List.append_subset.2 ⟨htexts, hsettings⟩, hflag⟩

/-- Nothing in a description goes unused, whatever its values. -/
theorem not_fieldIgnored (s : Slot) (d : Description) (field device : String) :
    .warning (.fieldIgnored field device) ∉ (d.request s).build.findings := by
  intro h
  cases (Request.lawful_build (d.request s)).reports _ h with
  | unused hs hu => exact hu (d.supplied_subset s hs)

end Description

/-- Whatever a sub-table asks for can be described. -/
theorem SlotTable.exists_description {t : SlotTable} {b : BlockRequest} (hb : b ∈ t.devices) :
    ∃ d : Description, d.block = b.block ∧ ∀ s, d.request s = b.on s := by
  unfold devices at hb
  simp only [List.mem_append, List.mem_map] at hb
  rcases hb with ((⟨c, -, rfl⟩ | ⟨c, -, rfl⟩) | ⟨c, -, rfl⟩) | ⟨c, -, rfl⟩
  · exact ⟨.disk c.storage c.size c.format c.settings, rfl, fun _ => rfl⟩
  · exact ⟨.hostDisk c.file c.settings, rfl, fun _ => rfl⟩
  · exact ⟨.drive c.iso c.passthrough, rfl, fun _ => rfl⟩
  · exact ⟨.cloudInit c.storage, rfl, fun _ => rfl⟩

/-! ## Devices described slot by slot -/

/-- The list with an entry for each slot that is described, in the order of the slots. -/
def DiskList.ofDescriptions (f : Slot → Option Description) : List Entry :=
  Slot.all.filterMap fun s => (f s).map (·.entry s)

/-- The map with a table for each slot that is described, under the name of the slot. -/
def BusTables.ofDescriptions (f : Slot → Option Description) : BusTables :=
  .ofSlots fun s => (f s).map (·.table)

variable (f : Slot → Option Description)

theorem DiskList.steps_ofDescriptions :
    steps 0 (ofDescriptions f) = Slot.all.filterMap fun s => ((f s).map (·.request s)).map .add := by
  have hentry : ∀ position s, ((f s).map (·.entry s)).map (·.steps position) =
      ((f s).map (·.request s)).map fun r => [.add r] := by
    intro position s
    rw [Option.map_map, Option.map_map]
    exact congrArg (Option.map · (f s)) (funext fun d => d.steps_entry position s)
  exact steps_filterMap hentry Slot.all 0

theorem BusTables.steps_ofDescriptions :
    (ofDescriptions f).misplacedSteps ++ Slot.all.flatMap (ofDescriptions f).stepsOf =
      Slot.all.filterMap fun s => ((f s).map (·.request s)).map .add := by
  refine steps_ofSlots fun s => ?_
  cases f s with
  | none => rfl
  | some d => exact d.steps_table s

/-- Reading either surface is adding the devices described, slot after slot. -/
theorem DiskList.decode_ofDescriptions :
    (decode (ofDescriptions f)).1 = (BusTables.ofDescriptions f).decode.1 := by
  rw [decode_eq_run, BusTables.decode_eq_run, steps_ofDescriptions, BusTables.steps_ofDescriptions]

/-- Each slot holds the device described for it, if it can be built. -/
theorem BusTables.get_decode_ofDescriptions (s : Slot) : (ofDescriptions f).decode.1.config.get s =
    ((f s).bind fun d => (d.request s).build.value).getD .delete := by
  rw [get_decode]
  unfold meaning ofDescriptions
  rw [tableOf_ofSlots]
  cases f s with
  | none => rfl
  | some d => rw [Option.map_some, Option.bind_some, d.wanted_table s]; rfl

/-- Each slot is reported by what is found in building its device. -/
theorem BusTables.report_decode_ofDescriptions : (ofDescriptions f).decode.1.report =
    Slot.all.flatMap fun s =>
      Report.ofFindings s.name ((f s).elim [] fun d => (d.request s).build.findings) := by
  unfold ofDescriptions
  rw [report_decode_ofSlots]
  refine congrArg Slot.all.flatMap (funext fun s => ?_)
  cases f s with
  | none => rfl
  | some d => exact d.reports_table s

/-- **The surfaces mean the same.** Whatever the values in the descriptions of some slots' devices, the
list of entries and the map of tables are read as one configuration with one report. Each slot holds the
device described, if it can be built, the report is what is found in building these devices, slot after
slot, and no field supplied goes unused. -/
theorem surfaces_agree :
    (DiskList.decode (DiskList.ofDescriptions f)).1.config = (BusTables.ofDescriptions f).decode.1.config ∧
      (DiskList.decode (DiskList.ofDescriptions f)).1.report = (BusTables.ofDescriptions f).decode.1.report ∧
      (∀ s, (BusTables.ofDescriptions f).decode.1.config.get s =
        ((f s).bind fun d => (d.request s).build.value).getD .delete) ∧
      (BusTables.ofDescriptions f).decode.1.report = (Slot.all.flatMap fun s =>
        Report.ofFindings s.name ((f s).elim [] fun d => (d.request s).build.findings)) ∧
      ∀ d ∈ (BusTables.ofDescriptions f).decode.1.report, ∀ field device,
        d.finding ≠ .warning (.fieldIgnored field device) := by
  have hdecode := DiskList.decode_ofDescriptions f
  refine ⟨by rw [hdecode], by rw [hdecode], BusTables.get_decode_ofDescriptions f,
    BusTables.report_decode_ofDescriptions f, ?_⟩
  intro d hd field device hf
  rw [BusTables.report_decode_ofDescriptions] at hd
  obtain ⟨s, -, hd⟩ := List.mem_flatMap.1 hd
  obtain ⟨g, hg, rfl⟩ := List.mem_map.1 hd
  have hfound : g = .warning (.fieldIgnored field device) := hf
  cases hs : f s with
  | none => rw [hs] at hg; cases hg
  | some description =>
    rw [hs, hfound] at hg
    exact description.not_fieldIgnored s field device hg

/-! ## What is written for a configuration -/

/-- The findings that can remain when what was written for a configuration is read back. -/
inductive Finding.MayRemain : Finding → Prop
  | invalidValue {field value reason : String} (h : field ≠ "type") :
    MayRemain (.error (.invalidValue field value reason))
  | missingField (field : String) : MayRemain (.error (.missingField field))
  | noCloudInit : MayRemain (.error (.unsupportedOnBus "cloudinit" .virtio))
  | droppedFlag {field : String} (h : field ∈ ["emulatessd", "iothread", "readonly"]) (bus : Bus) :
    MayRemain (.warning (.unsupportedOnBus field bus))

/-- A medium is written by its image or by the flag, never by both. -/
theorem Description.ofVariant_not_twoMedia {v : Variant} {d : Description}
    (h : ofVariant v = some d) (hk : d.kind = .cdrom) (hp : d.passthrough = true) : d.fields.iso = "" := by
  cases v with
  | disk v => cases h; cases hk
  | passthrough d => cases h; cases hk
  | cdrom m =>
    cases h
    cases m with
    | iso storage file => cases hp
    | passthrough => rfl
    | none => rfl
  | cloudInit storage => cases h; cases hk
  | delete => cases h
  | unchanged => cases h

theorem Request.mayRemain_of_ofVariant {s : Slot} {v : Variant} {r : Request} {f : Finding}
    (hr : ofVariant s v = some r) (hf : f ∈ r.build.findings) : f.MayRemain := by
  rw [Description.request_ofVariant, Option.map_eq_some_iff] at hr
  obtain ⟨d, hd, rfl⟩ := hr
  cases (lawful_build (d.request s)).reports f hf with
  | invalidValue h =>
    have hne : ∀ r : Request, "type" ∉ r.uses := by
      intro r
      unfold uses
      split <;> decide
    exact .invalidValue fun he => hne _ (he ▸ h)
  | missingField h => exact .missingField _
  | noCloudInit hk hb => exact .noCloudInit
  | twoMedia hk hp hi => exact absurd (Description.ofVariant_not_twoMedia hd hk hp) hi
  | unused hs hu => exact absurd (d.supplied_subset s hs) hu
  | droppedFlag h => exact .droppedFlag h _

/-- **The encodings agree.** The list and the map written for a configuration, well formed or not, are
read as one configuration with one report. Both surfaces carry over whatever each slot holds, so no
slot, kind or key that was written can be refused as such: what can remain is a value that is missing
or no good, a cloud-init drive on the bus that has none, and a flag that the bus lacks. -/
theorem encodings_agree (c : Configuration) :
    (DiskList.decode (DiskList.encode c)).1.config = (BusTables.encode c).decode.1.config ∧
      (DiskList.decode (DiskList.encode c)).1.report = (BusTables.encode c).decode.1.report ∧
      ∀ d ∈ (BusTables.encode c).decode.1.report, d.finding.MayRemain := by
  have hdecode : (DiskList.decode (DiskList.encode c)).1 = (BusTables.encode c).decode.1 := by
    rw [DiskList.decode_eq_run, DiskList.steps_encode, BusTables.decode_encode_eq_run]
  refine ⟨by rw [hdecode], by rw [hdecode], ?_⟩
  intro d hd
  have hreport := Document.report_decode_encode .expanded c
  rw [show (Document.encode .expanded c).output.decode.report = (BusTables.encode c).decode.1.report
    from rfl] at hreport
  rw [hreport] at hd
  obtain ⟨s, -, hd⟩ := List.mem_flatMap.1 hd
  obtain ⟨f, hf, rfl⟩ := List.mem_map.1 hd
  cases hr : Request.ofVariant s (c.get s) with
  | none => rw [hr] at hf; cases hf
  | some r =>
    rw [hr] at hf
    exact Request.mayRemain_of_ofVariant hr hf

end GuestDisks
