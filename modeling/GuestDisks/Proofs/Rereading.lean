import GuestDisks.Json.Reader
import GuestDisks.Proofs.Rendering

/-!
# What written documents can lose

A configuration need not be well formed to be written. Reading it back then finds fault with most of
what is not, but not with all, since two written forms are **ambiguous**: the storage and the path of an
image are joined by a colon and cut at the first one, and an empty text is that of an absent option.

* Where nothing is found about a slot, it gets back its variant **as reread**: the image cut at the
  first colon, empty texts absent (`Request.value_build_ofVariant`).
* That is the variant as it was written exactly if the variant is not ambiguous
  (`Document.reread_or_reported`). Ambiguous ones can be replaced in silence
  (`Document.replaced_in_silence`).
-/

namespace GuestDisks

open Assignment

/-! ## Variants as reread -/

/-- The options as they are reread: a text that is empty is absent. -/
def DiskOptions.reread (o : DiskOptions) : DiskOptions :=
  { o with serial := o.serial.filter (· != ""), wwn := o.wwn.filter (· != "") }

/-- Whether a text of the options is written as if it were absent. -/
def DiskOptions.IsAmbiguous (o : DiskOptions) : Prop := o.serial = some "" ∨ o.wwn = some ""

/-- The medium as it is reread: the text that names an image is cut at the first colon. -/
def Medium.reread : Medium → Medium
  | .iso storage file =>
    let text := (storage ++ ":" ++ file).toList
    .iso (.ofList (text.takeWhile (· != ':'))) (.ofList (text.dropWhile (· != ':')).tail)
  | m => m

/-- Whether the storage of an image has a colon, though not as its first character. -/
def Medium.IsAmbiguous : Medium → Prop
  | .iso storage _ => ':' ∈ storage.toList ∧ storage.toList.head? ≠ some ':'
  | .none | .passthrough => False

namespace Variant

/-- The variant as it is reread. -/
def reread : Variant → Variant
  | disk v => disk { v with options := v.options.reread }
  | passthrough d => passthrough { d with options := d.options.reread }
  | cdrom m => cdrom m.reread
  | cloudInit storage => cloudInit storage
  | delete | unchanged => delete

/-- Whether the variant is written as another one is. -/
def IsAmbiguous : Variant → Prop
  | disk v => v.options.IsAmbiguous
  | passthrough d => d.options.IsAmbiguous
  | cdrom m => m.IsAmbiguous
  | cloudInit _ | delete | unchanged => False

end Variant

/-- Of two texts that are written alike, each empty if absent, the one that is not empty itself is the
other without an empty text. -/
theorem eq_filter_of_getD_eq {o w : Option String} (h : o.getD "" = w.getD "") (hw : w ≠ some "") :
    w = o.filter (· != "") := by
  rcases o with _ | s <;> rcases w with _ | t
  · rfl
  · exact absurd (congrArg some h.symm) hw
  · obtain rfl : s = "" := h
    rfl
  · obtain rfl : s = t := h
    have hs : (s != "") = true := bne_iff_ne.2 fun hs => hw (congrArg some hs)
    simp [Option.filter, hs]

/-- Options are written so that they are read back exactly if none of their texts stands for another
value. -/
theorem DiskOptions.reread_eq_self_iff {o : DiskOptions} : o.reread = o ↔ ¬o.IsAmbiguous := by
  constructor
  · rintro h (hs | hw)
    · have he : o.serial.filter (· != "") = o.serial := congrArg DiskOptions.serial h
      rw [hs] at he
      exact absurd he (by decide)
    · have he : o.wwn.filter (· != "") = o.wwn := congrArg DiskOptions.wwn h
      rw [hw] at he
      exact absurd he (by decide)
  · intro h
    obtain ⟨hs, hw⟩ := not_or.1 h
    unfold reread
    rw [← eq_filter_of_getD_eq rfl hs, ← eq_filter_of_getD_eq rfl hw]

/-- **The first colon settles how a text is cut.** -/
theorem Medium.reread_eq {storage file a b : String} (h : storage ++ ":" ++ file = a ++ ":" ++ b)
    (ha : ':' ∉ a.toList) : Medium.reread (.iso storage file) = .iso a b := by
  have htext : (storage ++ ":" ++ file).toList = a.toList ++ ':' :: b.toList := by
    rw [h, String.toList_append, String.toList_append, List.append_assoc]; rfl
  have hall : ∀ c ∈ a.toList, (c != ':') = true := fun c hc =>
    bne_iff_ne.2 fun he => ha (he ▸ hc)
  unfold Medium.reread
  simp only [htext, List.takeWhile_append_of_pos hall, List.dropWhile_append_of_pos hall]
  simp

/-- An image whose storage has a colon is cut at that colon. -/
theorem Medium.reread_iso_of_mem {storage : String} (h : ':' ∈ storage.toList) (file : String) :
    ∃ as bs, storage.toList = as ++ ':' :: bs ∧ ':' ∉ as ∧
      Medium.reread (.iso storage file) = .iso (.ofList as) (.ofList bs ++ ":" ++ file) := by
  obtain ⟨as, bs, hs, has⟩ := List.eq_append_cons_of_mem h
  have hstorage : storage = .ofList as ++ ":" ++ .ofList bs := by
    rw [← String.toList_inj, hs]; simp
  refine ⟨as, bs, hs, has, Medium.reread_eq ?_ (by rwa [String.toList_ofList])⟩
  rw [hstorage]; simp only [String.append_assoc]

/-- An image that is reread as a well-formed one is reread as itself unless it is ambiguous. -/
theorem Medium.reread_eq_self_iff {bus : Bus} {m : Medium}
    (hm : (Variant.cdrom m.reread).WellFormedOn bus) : m.reread = m ↔ ¬m.IsAmbiguous := by
  cases m with
  | none => exact iff_of_true rfl not_false
  | passthrough => exact iff_of_true rfl not_false
  | iso storage file =>
    by_cases hc : ':' ∈ storage.toList
    · obtain ⟨as, bs, hs, has, hread⟩ := Medium.reread_iso_of_mem hc file
      rw [hread] at hm
      refine iff_of_false (fun h => ?_) (not_not.2 ⟨hc, fun h => ?_⟩)
      · -- the part before the cut has no colon
        rw [hread] at h
        rw [← (Medium.iso.inj h).1, String.toList_ofList] at hc
        exact has hc
      · -- a colon in front would leave nothing before the cut
        rw [hs] at h
        cases as with
        | nil => exact hm.1 rfl
        | cons c as => exact has (by cases h; exact List.mem_cons_self)
    · exact iff_of_true (Medium.reread_eq rfl hc) fun h => hc h.1

/-- **A variant that is reread as a well-formed one is reread as written unless it is ambiguous.** -/
theorem Variant.reread_eq_written_iff {bus : Bus} {v : Variant} (hv : v.reread.WellFormedOn bus) :
    v.reread = v.written ↔ ¬v.IsAmbiguous := by
  cases v with
  | disk v =>
    unfold IsAmbiguous
    rw [← DiskOptions.reread_eq_self_iff]
    exact ⟨fun h => congrArg Volume.options (Variant.disk.inj h),
      fun h => congrArg (fun o => Variant.disk { v with options := o }) h⟩
  | passthrough d =>
    unfold IsAmbiguous
    rw [← DiskOptions.reread_eq_self_iff]
    exact ⟨fun h => congrArg HostDisk.options (Variant.passthrough.inj h),
      fun h => congrArg (fun o => Variant.passthrough { d with options := o }) h⟩
  | cdrom m =>
    unfold IsAmbiguous
    rw [← Medium.reread_eq_self_iff hv]
    exact ⟨Variant.cdrom.inj, congrArg Variant.cdrom⟩
  | cloudInit storage => exact iff_of_true rfl not_false
  | delete => exact iff_of_true rfl not_false
  | unchanged => exact iff_of_true rfl not_false

/-! ## What comes back without findings -/

theorem Limits.eq_of_widened {l l' : Limits} (h : l.flat.widened = l'.flat.widened) : l = l' := by
  have hback : ∀ k : Limits, (k.flat.widened.mapRates fun n => UInt32.ofNat n.toNat).grouped = k := by
    intro k
    simp only [FlatLimits.widened, FlatLimits.mapRates, Limits.flat, FlatLimits.grouped,
      Check.ofNat_toNat_rate]
  rw [← hback l, h, hback]

namespace Request

open Checked

variable {r : Request}

/-- A flag is dropped only with a warning. -/
theorem and_eq_of_busFlag {field : String} {set supported : Bool}
    (h : (r.busFlag field set supported).findings = []) : (set && supported) = set := by
  revert h
  unfold busFlag
  cases set <;> cases supported <;> simp

/-- The options built from settings that were written for options, if nothing is found. -/
theorem eq_reread_of_options {o w : DiskOptions} (hr : r.fields.settings = .ofOptions o)
    (hf : r.options.findings = []) (hw : r.options.value = some w) : w = o.reread := by
  obtain ⟨hcache, hengine, hdiscard, hreplicate, hbackup, hserial, hwwn, hssd, hthread, hro, hlimits⟩ :=
    value_options_eq_some_iff.1 hw
  simp only [options, findings_seq, findings_map, List.append_eq_nil_iff] at hf
  obtain ⟨⟨⟨⟨-, fssd⟩, fthread⟩, fro⟩, -⟩ := hf
  rw [hr] at *
  have hc : w.cache = o.cache := Except.ok.inj (hcache.symm.trans (Check.cache_eq_ok_iff.2 rfl))
  have he : w.engine = o.engine := Except.ok.inj (hengine.symm.trans (Check.engine_eq_ok_iff.2 rfl))
  have hb : w.backup = o.backup := by
    rw [← hbackup]; unfold Settings.ofOptions; cases o.backup <;> rfl
  -- a text that is there and empty is written as if it were absent, and no serial number is empty
  obtain ⟨hs, hserial⟩ := Check.serial_eq_ok_iff.1 hserial
  obtain ⟨hn, hwwn⟩ := Check.wwn_eq_ok_iff.1 hwwn
  have hs' : w.serial = o.serial.filter (· != "") :=
    eq_filter_of_getD_eq hs fun h => absurd (hserial "" h) (by decide)
  have hn' : w.wwn = o.wwn.filter (· != "") :=
    eq_filter_of_getD_eq hn fun h => absurd (hwwn "" h) (by decide)
  have hl : w.limits = o.limits := (Limits.eq_of_widened (Check.limits_eq_ok_iff.1 hlimits).1).symm
  rw [and_eq_of_busFlag fssd] at hssd
  rw [and_eq_of_busFlag fthread] at hthread
  rw [and_eq_of_busFlag fro] at hro
  obtain ⟨⟩ := w
  simp only at *
  subst hc he hb hs' hn' hl hssd hthread hro hdiscard hreplicate
  rfl

/-- A managed disk that is built from what was written, without findings, is the disk as reread. -/
theorem eq_reread_of_volume {v w : Volume} (hr : r.fields = .ofVolume v) (hf : r.volume.findings = [])
    (hw : r.volume.value = some w) : w = { v with options := v.options.reread } := by
  obtain ⟨⟨hstorage, -⟩, ⟨hsize, -⟩, hformat, hoptions⟩ := value_volume_eq_some_iff.1 hw
  simp only [volume, findings_seqRight, findings_seq, List.append_eq_nil_iff] at hf
  rw [hr] at hstorage hsize hformat
  have hz : v.size.kib = w.size.kib := (Size.parse_format v.size.kib).symm.trans hsize
  have hl : v.format = w.format := Except.ok.inj ((Check.format_label v.format).symm.trans hformat)
  have ho := eq_reread_of_options (by rw [hr]; rfl) hf.2.2 hoptions
  rcases v with ⟨storage, ⟨kib⟩, format, options⟩
  rcases w with ⟨storage', ⟨kib'⟩, format', options'⟩
  exact congr (congr (congr (congrArg Volume.mk hstorage.symm) (congrArg DiskSize.mk hz.symm)) hl.symm) ho

/-- So is a host disk. -/
theorem eq_reread_of_hostDisk {d w : HostDisk} (hr : r.fields = .ofHostDisk d)
    (hf : r.hostDisk.findings = []) (hw : r.hostDisk.value = some w) :
    w = { d with options := d.options.reread } := by
  obtain ⟨⟨hfile, -⟩, hoptions⟩ := value_hostDisk_eq_some_iff.1 hw
  simp only [hostDisk, findings_seqRight, findings_seq, List.append_eq_nil_iff] at hf
  rw [hr] at hfile
  have ho := eq_reread_of_options (by rw [hr]; rfl) hf.2.2 hoptions
  exact congr (congrArg HostDisk.mk hfile.symm) ho

/-- So is what is in a CD drive, whatever is found. -/
theorem eq_reread_of_medium {m w : Medium} (hp : r.passthrough = (m == .passthrough))
    (hr : r.fields = .ofMedium m) (hw : r.medium.value = some w) : w = m.reread := by
  have hcases := value_medium_eq_some_iff.1 hw
  rw [hr, hp] at hcases
  cases m with
  | none => exact hcases.elim And.right fun h => absurd rfl h.1
  | passthrough => exact hcases.elim And.right fun h => absurd rfl h.1
  | iso storage file =>
    have hne : storage ++ ":" ++ file ≠ "" := by simp [String.append_eq_empty_iff]
    obtain ⟨-, -, ⟨a, b⟩, hiso, rfl⟩ := hcases.resolve_left fun h => hne h.1
    obtain ⟨htext, -, hcolon, -⟩ := Check.iso_eq_ok_iff.1 hiso
    exact (Medium.reread_eq htext hcolon).symm

/-- **Where nothing is found, the request written for a variant is built to the variant as reread.** -/
theorem value_build_ofVariant {s : Slot} {v : Variant} (hr : ofVariant s v = some r)
    (hf : r.build.findings = []) : r.build.value = some v.reread := by
  have hsome : r.build.value.isSome = true := by
    rw [r.build_lawful.isSome_iff, hf]; exact nofun
  obtain ⟨u, hu⟩ := Option.isSome_iff_exists.1 hsome
  rw [hu]
  cases v with
  | disk v =>
    cases hr
    obtain ⟨w, hw, rfl⟩ := Option.map_eq_some_iff.1 hu
    rw [eq_reread_of_volume rfl hf hw]; rfl
  | passthrough d =>
    cases hr
    obtain ⟨w, hw, rfl⟩ := Option.map_eq_some_iff.1 hu
    rw [eq_reread_of_hostDisk rfl hf hw]; rfl
  | cdrom m =>
    cases hr
    obtain ⟨w, hw, rfl⟩ := Option.map_eq_some_iff.1 hu
    rw [eq_reread_of_medium rfl rfl hw]; rfl
  | cloudInit storage =>
    cases hr
    obtain ⟨w, hw, rfl⟩ := Option.map_eq_some_iff.1 hu
    obtain ⟨-, rfl, -⟩ := value_cloudInit_eq_some_iff.1 hw
    rfl
  | delete => cases hr
  | unchanged => cases hr

end Request

namespace Document

/-- What is found in building the request of a slot is reported about the slot. -/
theorem exists_place_of_findings {surface : Surface} {c : Configuration} {s : Slot} {f : Finding}
    (h : f ∈ (Request.ofVariant s (c.get s)).elim [] (·.build.findings)) :
    ∃ d ∈ (encode surface c).output.decode.report, d.place = s.name := by
  refine ⟨⟨s.name, f⟩, ?_, rfl⟩
  rw [report_decode_encode, List.mem_flatMap]
  exact ⟨s, Slot.mem_all s, List.mem_map_of_mem h⟩

/-- Where nothing is reported about a slot, it gets back its variant as reread. -/
theorem get_decode_encode_of_silence {surface : Surface} {c : Configuration} {s : Slot}
    (h : ¬∃ d ∈ (encode surface c).output.decode.report, d.place = s.name) :
    (encode surface c).output.decode.config.get s = (c.get s).reread := by
  have hf : (Request.ofVariant s (c.get s)).elim [] (·.build.findings) = [] :=
    List.eq_nil_iff_forall_not_mem.2 fun f hf => h (exists_place_of_findings hf)
  rw [get_decode_encode]
  cases hr : Request.ofVariant s (c.get s) with
  | none => cases hv : c.get s <;> rw [hv] at hr <;> first | rfl | cases hr
  | some r =>
    rw [hr, Option.elim_some] at hf
    rw [Option.bind_some, Request.value_build_ofVariant hr hf, Option.getD_some]

/-- **Nothing is replaced in silence but what is ambiguous.** When a configuration is written on a surface
and read back, a slot that nothing is reported about gets back its variant as reread, and this is the
variant as it was written exactly if the variant is not ambiguous. -/
theorem reread_or_reported (surface : Surface) (c : Configuration) (s : Slot) :
    (∃ d ∈ (encode surface c).output.decode.report, d.place = s.name) ∨
      (encode surface c).output.decode.config.get s = (c.get s).reread ∧
        ((encode surface c).output.decode.config.get s = (c.get s).written ↔ ¬(c.get s).IsAmbiguous) := by
  refine or_iff_not_imp_left.2 fun h => ?_
  have hget := get_decode_encode_of_silence h
  have hwell := wellFormed_decode (encode surface c).output s
  rw [hget] at hwell
  rw [hget]
  exact ⟨rfl, Variant.reread_eq_written_iff hwell⟩

/-- An image whose storage has a colon and a host disk whose serial number is empty are read from JSON.
On either surface they come back as another image and without the serial number, and nothing is
reported. -/
theorem replaced_in_silence :
    let text := "\x7b\"ide2\": \x7b\"type\": \"cdrom\", \"media\": \x7b\"iso\": \x7b\"storage\": \"a:b\", " ++
      "\"file\": \"c\"\x7d\x7d\x7d, \"scsi0\": \x7b\"type\": \"passthrough\", \"file\": \"/dev/sdb\", " ++
      "\"serial\": \"\"\x7d\x7d"
    let drive : Slot := ⟨.ide, 2, by decide⟩
    let disk : Slot := ⟨.scsi, 0, by decide⟩
    ∃ c, Json.readDocument Configuration.read text = .ok c ∧
      (c.get drive).written = .cdrom (.iso "a:b" "c") ∧
      (c.get disk).written = .passthrough ⟨"/dev/sdb", { serial := some "" }⟩ ∧
      ∀ surface, (encode surface c).output.decode.report = [] ∧
        (encode surface c).output.decode.config.get drive = .cdrom (.iso "a" "b:c") ∧
        (encode surface c).output.decode.config.get disk = .passthrough ⟨"/dev/sdb", {}⟩ ∧
        ¬∀ s, (∃ d ∈ (encode surface c).output.decode.report, d.place = s.name) ∨
          (encode surface c).output.decode.config.get s = (c.get s).written := by
  intro text drive disk
  let c : Configuration := .ofList
    [(drive, .cdrom (.iso "a:b" "c")), (disk, .passthrough ⟨"/dev/sdb", { serial := some "" }⟩)]
  have hdrive : (c.get drive).written = .cdrom (.iso "a:b" "c") := by decide +kernel
  refine ⟨c, by decide +kernel, hdrive, by decide +kernel, fun surface => ?_⟩
  have hreport : (encode surface c).output.decode.report = [] := by
    rw [report_decode_encode]; decide +kernel
  have hget : (encode surface c).output.decode.config.get drive = .cdrom (.iso "a" "b:c") := by
    rw [get_decode_encode]; decide +kernel
  refine ⟨hreport, hget, by rw [get_decode_encode]; decide +kernel, fun h => ?_⟩
  rcases h drive with ⟨d, hd, -⟩ | h
  · rw [hreport] at hd; cases hd
  · rw [hget, hdrive] at h; exact absurd h (by decide)

end Document

end GuestDisks
