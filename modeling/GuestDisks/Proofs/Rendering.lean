import GuestDisks.Proofs.Agreement
import GuestDisks.Proofs.Decoding
import GuestDisks.Proofs.SizeText

/-!
# Reading what was written

Both surfaces write a variant as the same **request** (`Request.ofVariant`), so reading back is
adding the requests of all slots in order, whichever surface they went through
(`Document.steps_encode`).

* A well-formed variant is what its request is built to, and nothing is found
  (`Request.build_ofVariant`).
* So a configuration comes back, with what was unchanged deleted and no findings, exactly when every
  slot is well formed (`Document.decode_encode_iff_wellFormed`).
-/

namespace GuestDisks

open Assignment Data

/-- The request that a variant is written as; the markers ask for nothing. -/
def Request.ofVariant (s : Slot) : Variant → Option Request
  | .disk v => some ⟨s, .disk, false, .ofVolume v⟩
  | .passthrough d => some ⟨s, .disk, true, .ofHostDisk d⟩
  | .cdrom m => some ⟨s, .cdrom, m == .passthrough, .ofMedium m⟩
  | .cloudInit storage => some ⟨s, .cloudInit, false, { storage }⟩
  | .delete | .unchanged => none

/-! ## What requests of well-formed variants are built to -/

namespace Request

open Checked

variable {r : Request}

theorem ofExcept_ok {α : Type} (a : α) : ofExcept (.ok a) = pure a := rfl

theorem required_of_ne {field value : String} (h : value ≠ "") : required field value = pure value := by
  unfold required; rw [if_neg h]

theorem ignored_nil (r : Request) : r.ignored [] = pure () := rfl

/-- A flag that the bus supports is taken without a warning. -/
theorem busFlag_of_supported {field : String} {set supported : Bool} (h : set = true → supported = true) :
    r.busFlag field set supported = pure set := by
  unfold busFlag
  cases set
  · rfl
  · rw [h rfl]; rfl

/-- The settings written for well-formed options are read as these options. -/
theorem options_eq_pure {o : DiskOptions} (hr : r.fields.settings = .ofOptions o)
    (h : o.WellFormedOn r.slot.bus) : r.options = pure o := by
  have hcache : Check.cache (Settings.ofOptions o).cache = .ok o.cache := Check.cache_eq_ok_iff.2 rfl
  have hengine : Check.engine (Settings.ofOptions o).engine = .ok o.engine := Check.engine_eq_ok_iff.2 rfl
  have hserial : Check.serial (Settings.ofOptions o).serial = .ok o.serial :=
    Check.serial_eq_ok_iff.2 ⟨rfl, h.serial⟩
  have hwwn : Check.wwn (Settings.ofOptions o).wwn = .ok o.wwn := Check.wwn_eq_ok_iff.2 ⟨rfl, h.wwn⟩
  have hlimits : Check.limits (Settings.ofOptions o).limits = .ok o.limits :=
    Check.limits_eq_ok_iff.2 ⟨rfl, h.limits⟩
  have hbackup : (Settings.ofOptions o).backup.getD true = o.backup := by
    unfold Settings.ofOptions; cases o.backup <;> rfl
  unfold options
  simp only [hr, hcache, hengine, hserial, hwwn, hlimits, hbackup, ofExcept_ok]
  simp only [Settings.ofOptions, busFlag_of_supported h.emulateSsd, busFlag_of_supported h.ioThread,
    busFlag_of_supported h.readOnly, map_pure, pure_seq]

/-- A volume with its names is read from the fields that it is written as. -/
theorem volume_eq_pure {v : Volume} (hr : r.fields = .ofVolume v)
    (h : (Variant.disk v).WellFormedOn r.slot.bus) : r.volume = pure v := by
  obtain ⟨hstorage, hsize, hoptions⟩ := h
  -- the empty text has no size, and this one has
  have htext : v.size.text ≠ "" := by
    intro he
    have hp := Size.parse_format v.size.kib
    rw [show Size.format v.size.kib = "" from he, Size.parse_empty] at hp
    rw [← hp] at hsize
    exact absurd hsize (by decide)
  have hlabel : v.format.label ≠ "" := by cases v.format <;> decide
  have hignored : r.fields.populated.filter (fun f => f == "iso" || f == "disk_file") = [] := by
    rw [hr]
    simp [Fields.populated, Fields.texts, Fields.ofVolume, hstorage, htext, hlabel]
  have hread : Check.size v.size.text = .ok v.size := Check.size_eq_ok_iff.2 ⟨Size.parse_format _, hsize⟩
  unfold volume size
  rw [hignored, ignored_nil, pure_seqRight, options_eq_pure (by rw [hr]; rfl) hoptions, hr]
  simp only [Fields.ofVolume, required_of_ne hstorage, if_neg htext, hread, Check.format_label, ofExcept_ok,
    map_pure, pure_seq]

/-- So is a well-formed host disk. -/
theorem hostDisk_eq_pure {d : HostDisk} (hr : r.fields = .ofHostDisk d)
    (h : (Variant.passthrough d).WellFormedOn r.slot.bus) : r.hostDisk = pure d := by
  obtain ⟨hfile, hoptions⟩ := h
  have hignored : r.fields.populated.filter (· != "disk_file") = [] := by
    rw [hr]
    simp [Fields.populated, Fields.texts, Fields.ofHostDisk, hfile]
  unfold hostDisk
  rw [hignored, ignored_nil, pure_seqRight, options_eq_pure (by rw [hr]; rfl) hoptions, hr]
  simp only [Fields.ofHostDisk, required_of_ne hfile, map_pure, pure_seq]

/-- So is what is in a well-formed CD drive. -/
theorem medium_eq_pure {m : Medium} (hp : r.passthrough = (m == .passthrough))
    (hr : r.fields = .ofMedium m) (h : (Variant.cdrom m).WellFormedOn r.slot.bus) : r.medium = pure m := by
  have hsettings : r.fields.settings.populated = [] := by rw [hr]; cases m <;> rfl
  have hignored : r.fields.populated.filter (· != "iso") = [] := by
    rw [hr]
    cases m with
    | none => decide
    | passthrough => decide
    | iso storage file => simp [Fields.populated, Fields.texts, Fields.ofMedium]
  unfold medium
  rw [hignored, hsettings, ignored_nil, pure_seqRight, pure_seqRight, hp, hr]
  cases m with
  | none => rfl
  | passthrough => rfl
  | iso storage file =>
    have hread := Check.iso_eq_ok_iff.2 ⟨rfl, h⟩
    have hne : storage ++ ":" ++ file ≠ "" := by simp [String.append_eq_empty_iff]
    simp only [Fields.ofMedium, if_neg hne, hread, ofExcept_ok, map_pure]
    rfl

/-- So is a cloud-init drive. -/
theorem cloudInit_eq_pure {storage : String} (hp : r.passthrough = false)
    (hr : r.fields = { storage }) (h : (Variant.cloudInit storage).WellFormedOn r.slot.bus) :
    r.cloudInit = pure storage := by
  obtain ⟨hstorage, hbus⟩ := h
  have haccepts : r.slot.bus.accepts .cloudInit = true := by
    revert hbus
    cases r.slot.bus <;> decide
  have hsettings : r.fields.settings.populated = [] := by rw [hr]; rfl
  have hignored : r.fields.populated.filter (· != "storage") = [] := by
    rw [hr]
    simp [Fields.populated, Fields.texts, hstorage]
  unfold cloudInit
  rw [if_pos haccepts, hignored, hsettings, hp, if_neg (by decide), ignored_nil, hr]
  simp only [pure_seqRight, required_of_ne hstorage]

/-- **The request of a well-formed variant is built to the variant, and nothing is found.** -/
theorem build_ofVariant {s : Slot} {v : Variant} (hr : ofVariant s v = some r)
    (h : v.WellFormedOn s.bus) : r.build = pure v := by
  cases v with
  | disk v => cases hr; exact congrArg (Variant.disk <$> ·) (volume_eq_pure rfl h)
  | passthrough d => cases hr; exact congrArg (Variant.passthrough <$> ·) (hostDisk_eq_pure rfl h)
  | cdrom m => cases hr; exact congrArg (Variant.cdrom <$> ·) (medium_eq_pure rfl rfl h)
  | cloudInit storage => cases hr; exact congrArg (Variant.cloudInit <$> ·) (cloudInit_eq_pure rfl rfl h)
  | delete => cases hr
  | unchanged => cases hr

end Request

/-! ## Both surfaces write the same requests -/

/-- The steps that a configuration is written as: adding the request of each slot, in order. -/
def Configuration.steps (c : Configuration) : List Step :=
  Slot.all.filterMap fun s => (Request.ofVariant s (c.get s)).map .add

/-- A written entry asks for the device that it was written for. -/
theorem Entry.steps_ofVariant (position : Nat) (s : Slot) (v : Variant) :
    (ofVariant s v).map (·.steps position) = (Request.ofVariant s v).map fun r => [.add r] := by
  cases v <;> simp only [ofVariant, Option.map_some, Option.map_none, steps, Slot.ofName_name] <;> rfl

/-- An entry is written for every slot that holds a device. -/
theorem DiskList.encode_eq_filterMap (c : Configuration) :
    encode c = Slot.all.filterMap fun s => Entry.ofVariant s (c.get s) := by
  unfold encode
  rw [Configuration.entries_eq, List.filterMap_map]; rfl

/-- Reading a written list asks for what each slot holds. -/
theorem DiskList.steps_encode (c : Configuration) : steps 0 (encode c) = c.steps := by
  rw [encode_eq_filterMap, steps_filterMap fun position s => Entry.steps_ofVariant position s (c.get s)]; rfl

namespace SlotTable

/-- A written slot table asks for the device that it was written for. -/
theorem steps_ofVariant (s : Slot) (v : Variant) :
    (ofVariant v).steps s = ((Request.ofVariant s v).map Step.add).toList := by
  rcases v with _ | _ | (_ | _ | _) | _ | _ | _ <;> rfl

/-- A written slot table has no unknown keys. -/
theorem noted_ofVariant (v : Variant) : (ofVariant v).noted = [] := by
  rcases v with _ | _ | (_ | _ | _) | _ | _ | _ <;> rfl

theorem wanted_ofVariant (s : Slot) (v : Variant) :
    (ofVariant v).wanted s = (Request.ofVariant s v).map (·.build) := by
  rcases v with _ | _ | (_ | _ | _) | _ | _ | _ <;> rfl

end SlotTable

namespace BusTables

/-- A table is written for every slot. -/
theorem encode_eq_ofSlots (c : Configuration) :
    encode c = ofSlots fun s => some (SlotTable.ofVariant (c.get s)) := by
  unfold encode ofSlots
  rw [Configuration.entries_eq]
  simp only [List.filterMap_map]
  rfl

/-- A written map has a table for every slot. -/
theorem tableOf_encode (c : Configuration) (s : Slot) :
    (encode c).tableOf s = some (SlotTable.ofVariant (c.get s)) := by
  rw [encode_eq_ofSlots, tableOf_ofSlots]

/-- Reading written tables asks for what each slot holds. -/
theorem steps_encode (c : Configuration) :
    (encode c).misplacedSteps ++ Slot.all.flatMap (encode c).stepsOf = c.steps := by
  rw [encode_eq_ofSlots]
  exact steps_ofSlots fun s => SlotTable.steps_ofVariant s (c.get s)

theorem decode_encode_eq_run (c : Configuration) : (encode c).decode.1 = Assignment.empty.run c.steps := by
  rw [decode_eq_run, steps_encode]

theorem steps_empty :
    ({} : BusTables).misplacedSteps ++ Slot.all.flatMap ({} : BusTables).stepsOf = [] := by
  rw [List.append_eq_nil_iff, List.flatMap_eq_nil_iff]
  refine ⟨rfl, fun s _ => ?_⟩
  unfold stepsOf tableOf
  cases s.bus <;> rfl

end BusTables

/-- **The steps written do not depend on the surface.** -/
theorem Document.steps_encode (surface : Surface) (c : Configuration) :
    (encode surface c).output.steps = c.steps := by
  cases surface with
  | expanded => exact BusTables.steps_encode c
  | list =>
    rw [← DiskList.steps_encode]
    unfold steps Document.surface encode
    cases hd : DiskList.encode c with
    | nil => -- the document then uses the map, which is absent and so as good as empty
      exact BusTables.steps_empty
    | cons e es => rfl

/-- A document written as a list is one only if there is something to list. -/
theorem Document.surface_encode (surface : Surface) (c : Configuration) :
    (encode surface c).output.surface = if c.devices = [] then .expanded else surface := by
  cases surface with
  | expanded => rw [ite_self]; rfl
  | list =>
    have hnil : DiskList.encode c = [] ↔ c.devices = [] := by
      rw [Configuration.devices_eq_nil_iff, DiskList.encode_eq_filterMap, List.filterMap_eq_nil_iff]
      simp only [Slot.mem_all, forall_const]
      refine forall_congr' fun s => ?_
      cases c.get s <;> simp [Entry.ofVariant, Variant.isEmpty]
    unfold Document.surface encode
    simp only [← hnil, List.isEmpty_iff]

/-! ## What comes back -/

/-- The variant that is written for a variant: nothing can be written for `unchanged`. -/
def Variant.written : Variant → Variant
  | .unchanged => .delete
  | v => v

/-- The configuration that is written for a configuration. -/
def Configuration.written (c : Configuration) : Configuration := ⟨c.variants.map Variant.written⟩

/-- Each slot of a written configuration holds what is written of its own. -/
theorem Configuration.get_written (c : Configuration) (s : Slot) :
    c.written.get s = (c.get s).written := by
  rw [get_eq_getElem _ s s.ordinal_lt, get_eq_getElem c s s.ordinal_lt]
  exact Vector.getElem_map ..

theorem Variant.wellFormedOn_written {bus : Bus} {v : Variant} :
    v.written.WellFormedOn bus ↔ v.WellFormedOn bus := by
  cases v <;> rfl

/-- A slot gets back what its request is built to. -/
theorem Document.get_decode_encode (surface : Surface) (c : Configuration) (s : Slot) :
    (encode surface c).output.decode.config.get s =
      ((Request.ofVariant s (c.get s)).bind (·.build.value)).getD .delete := by
  have hc : (encode surface c).output.decode.config = (encode surface c).output.assign.1.config := rfl
  rw [hc, assign_eq_run, steps_encode, ← BusTables.decode_encode_eq_run, BusTables.get_decode]
  unfold BusTables.meaning
  rw [BusTables.tableOf_encode, Option.bind_some, SlotTable.wanted_ofVariant, Option.bind_map]; rfl

/-- What is found on reading back is what was found in building the requests. -/
theorem Document.report_decode_encode (surface : Surface) (c : Configuration) :
    (encode surface c).output.decode.report = Slot.all.flatMap fun s =>
      Report.ofFindings s.name ((Request.ofVariant s (c.get s)).elim [] (·.build.findings)) := by
  have hr : (encode surface c).output.decode.report = (encode surface c).output.assign.1.report := rfl
  rw [hr, assign_eq_run, steps_encode, ← BusTables.decode_encode_eq_run, BusTables.encode_eq_ofSlots,
    BusTables.report_decode_ofSlots]
  refine congrArg Slot.all.flatMap (funext fun s => ?_)
  unfold SlotTable.reports
  rw [Option.elim_some, SlotTable.noted_ofVariant, SlotTable.wanted_ofVariant]
  cases Request.ofVariant s (c.get s) <;> rfl

/-- A well-formed variant comes back as it was written, without findings. -/
theorem Request.build_ofVariant_written {s : Slot} {v : Variant} (h : v.WellFormedOn s.bus) :
    ((ofVariant s v).bind (·.build.value)).getD .delete = v.written ∧
      (ofVariant s v).elim [] (·.build.findings) = [] := by
  cases hr : ofVariant s v with
  | none => cases v <;> cases hr <;> exact ⟨rfl, rfl⟩
  | some r =>
    rw [Option.bind_some, Option.elim_some, build_ofVariant hr h]
    cases v <;> cases hr <;> exact ⟨rfl, rfl⟩

/-- **Reading what was written.** A configuration that is written on a surface and read back comes back,
with what was unchanged deleted and nothing to report, exactly when each slot's variant is well formed
on its bus. The surface is then the one written on, except that a list without devices is none. -/
theorem Document.decode_encode_iff_wellFormed (surface : Surface) (c : Configuration) :
    (((encode surface c).output.decode.config == c.written) = true ∧
        (encode surface c).output.decode.report = [] ↔
      ∀ s, (c.get s).WellFormedOn s.bus) ∧
    (encode surface c).output.decode.surface = if c.devices = [] then .expanded else surface := by
  refine ⟨⟨fun ⟨h, _⟩ s => ?_, fun h => ⟨?_, ?_⟩⟩, surface_encode surface c⟩
  · -- whatever is read is well formed, and so is what agrees with it
    have hs := (wellFormed_decode _ s).of_beq (Configuration.beq_iff.1 h s)
    rw [Configuration.get_written] at hs
    exact Variant.wellFormedOn_written.1 hs
  · rw [Configuration.beq_iff]
    intro s
    rw [get_decode_encode, (Request.build_ofVariant_written (h s)).1, Configuration.get_written]
    exact (Variant.wellFormedOn_written.2 (h s)).beq_self
  · rw [report_decode_encode, List.flatMap_eq_nil_iff]
    intro s _
    rw [(Request.build_ofVariant_written (h s)).2]; rfl

end GuestDisks
