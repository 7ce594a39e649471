import GuestDisks.Proofs.JsonText
import GuestDisks.Proofs.Records
import GuestDisks.Proofs.Store
import Mathlib.Data.List.Perm.Basic

/-!
# The canonical form of a configuration

A configuration is written as JSON with all slots and every field of every variant, and what is written
is read back to the bit. For each type the members that are written are those that its reader looks up,
so there is one lemma for each type, and each says that reading undoes writing.

* `Variant.read_json`: a variant is read back if its throughputs are finite; others have no JSON form.
* `Configuration.read_written`: so is a configuration, with its slots in any order and without those
  that are deleted; and so are its texts, as far as doubles are read back from theirs.
-/

namespace GuestDisks

open Data Json

namespace Json

/-! ## Drafts of values -/

mutual

/-- What a text says that writes a value out can be read to its last part. -/
theorem readable_draft : ∀ j : Json, readable (draft j) = true
  | .null | .boolean _ | .integer _ | .real _ | .string _ => rfl
  | .array items => readableItems_draft items
  | .object members => readableMembers_draft members

theorem readableItems_draft : ∀ items : List Json, Draft.readableItems (draftItems items) = true
  | [] => rfl
  | j :: js => Bool.and_eq_true_iff.2 ⟨readable_draft j, readableItems_draft js⟩

theorem readableMembers_draft :
    ∀ members : List (String × Json), Draft.readableMembers (draftMembers members) = true
  | [] => rfl
  | (_, j) :: ms => Bool.and_eq_true_iff.2 ⟨readable_draft j, readableMembers_draft ms⟩

end

mutual

theorem skippable_draft : ∀ j : Json, skippable (draft j) = true
  | .null | .boolean _ | .integer _ | .real _ | .string _ => rfl
  | .array items => skippableItems_draft items
  | .object members => skippableMembers_draft members

theorem skippableItems_draft : ∀ items : List Json, Draft.skippableItems (draftItems items) = true
  | [] => rfl
  | j :: js => Bool.and_eq_true_iff.2 ⟨skippable_draft j, skippableItems_draft js⟩

theorem skippableMembers_draft :
    ∀ members : List (String × Json), Draft.skippableMembers (draftMembers members) = true
  | [] => rfl
  | (_, j) :: ms => Bool.and_eq_true_iff.2 ⟨skippable_draft j, skippableMembers_draft ms⟩

end

/-- The drafts of members, under their keys. -/
def drafts (ms : List (String × Json)) : Members Draft := ms.map fun m => (m.1, draft m.2)

theorem keyed_draftMembers (ms : List (String × Json)) : Draft.keyed (draftMembers ms) = drafts ms := by
  induction ms with
  | nil => rfl
  | cons m ms ih => exact congrArg ((m.1, draft m.2) :: ·) ih

theorem isSome_keys_draftMembers (ms : List (String × Json)) :
    (draftMembers ms).all (·.1.isSome) = true := by
  induction ms with
  | nil => rfl
  | cons m ms ih => exact ih

/-- **An object is seen as the map of its members.** -/
theorem shape_draft_object (ms : List (String × Json)) :
    shape (draft (.object ms)) = .map (drafts ms) true := by
  show Shape.map (Draft.keyed (draftMembers ms)) (true && (draftMembers ms).all (·.1.isSome)) = _
  rw [keyed_draftMembers, isSome_keys_draftMembers]; rfl

variable {fields : List (RecordField Draft)} {ms : List (String × Json)}

theorem map_key_drafts (ms : List (String × Json)) : (drafts ms).map (·.1) = ms.map (·.1) := by
  unfold drafts; rw [List.map_map]; rfl

/-- A record whose fields fit is read from what was written, whatever it does with other members. -/
theorem record_drafts (hn : (ms.map (·.1)).Nodup) (hfits : fields.Forall (·.Fits (drafts ms)))
    (what : String) (surplus : Surplus) :
    record what surplus fields (.map (drafts ms) true) = .ok (drafts ms) := by
  refine record_eq_ok (by rwa [map_key_drafts]) hfits what surplus ?_
  intro m hm
  obtain ⟨e, -, rfl⟩ := List.mem_map.1 hm
  exact skippable_draft e.2

/-- So is a record that keeps other members. -/
theorem splitRecord_drafts (hn : (ms.map (·.1)).Nodup) (hfits : fields.Forall (·.Fits (drafts ms)))
    (what : String) : splitRecord what fields (.map (drafts ms) true) = .ok (drafts ms) := by
  refine splitRecord_eq_ok (by rwa [map_key_drafts]) hfits what ?_
  intro m hm
  obtain ⟨e, -, rfl⟩ := List.mem_map.1 hm
  exact readable_draft e.2

theorem survey_drafts (hn : (ms.map (·.1)).Nodup) (hfits : fields.Forall (·.Fits (drafts ms))) :
    survey fields readable [] (drafts ms) = .ok () := by
  refine survey_eq_ok (by rwa [map_key_drafts]) hfits ?_
  intro m hm
  obtain ⟨e, -, rfl⟩ := List.mem_map.1 hm
  exact readable_draft e.2

/-! ## Scalars -/

/-- A finite double is read back as itself. Others have no written form. -/
theorem real_draft {x : Binary64} (h : x.isFinite = true) : Data.real (draft (.ofReal x)) = .ok x := by
  unfold ofReal
  rw [if_pos h]; rfl

theorem uint32_draft (n : UInt32) : uint32 (draft (.ofNat n.toNat)) = .ok n := by
  have hlt : n.toNat < 2 ^ 32 := n.toNat_lt
  have hrange : (0 : Int) ≤ n.toNat ∧ (n.toNat : Int) ≤ 0xffffffff := by omega
  show ((if (0 : Int) ≤ n.toNat ∧ (n.toNat : Int) ≤ 0xffffffff then .ok (n.toNat : Int)
    else .error _ : Except Fault Int).map fun n => UInt32.ofNat n.toNat) = _
  rw [if_pos hrange]
  show Except.ok (UInt32.ofNat n.toNat) = _
  rw [UInt32.ofNat_toNat]

theorem uint64_draft (n : UInt64) : uint64 (draft (.ofNat n.toNat)) = .ok n := by
  have hlt : n.toNat < 2 ^ 64 := n.toNat_lt
  have hrange : (0 : Int) ≤ n.toNat ∧ (n.toNat : Int) ≤ 0xffffffffffffffff := by omega
  show ((if (0 : Int) ≤ n.toNat ∧ (n.toNat : Int) ≤ 0xffffffffffffffff then .ok (n.toNat : Int)
    else .error _ : Except Fault Int).map fun n => UInt64.ofNat n.toNat) = _
  rw [if_pos hrange]
  show Except.ok (UInt64.ofNat n.toNat) = _
  rw [UInt64.ofNat_toNat]

/-- A text that may be absent is written as null without it. -/
theorem optional_draft {β : Type} {read : Reader Draft β} {label : β → String}
    (h : ∀ b, read (draft (.string (label b))) = .ok b) (o : Option β) :
    optional read (draft (.ofOption (o.map fun b => .string (label b)))) = .ok o := by
  cases o with
  | none => rfl
  | some b =>
    show (read (draft (.string (label b)))).map some = _
    rw [h]; rfl

end Json

/-! ## Limits -/

/-- The throughputs among the limits. -/
def Limits.throughputs (l : Limits) : List Binary64 := l.flat.throughputs.map (·.2)

/-- Throughputs that are finite are read back. -/
theorem Throughput.read_json (surplus : Surplus) {t : Throughput} (hb : t.burst.isFinite = true)
    (hc : t.concurrent.isFinite = true) : read surplus (draft t.json) = .ok t := by
  let ms := drafts [("burst", .ofReal t.burst), ("concurrent", .ofReal t.concurrent)]
  have hburst : ms.orElse "burst" real .zero = .ok t.burst := Json.real_draft hb
  have hconcurrent : ms.orElse "concurrent" real .zero = .ok t.concurrent := Json.real_draft hc
  unfold read json
  rw [shape_draft_object]
  refine bind_eq_of_ok (record_drafts ?_ ?_ _ _) ?_
  · show ["burst", "concurrent"].Nodup
    decide
  · exact ⟨.may hburst, .may hconcurrent⟩
  · exact bind_eq_of_ok hburst (bind_eq_of_ok hconcurrent rfl)

theorem Rate.read_json (surplus : Surplus) (r : Rate) : read surplus (draft r.json) = .ok r := by
  let ms := drafts [("burst", .ofNat r.burst.toNat), ("burst_length", .ofNat r.burstLength.toNat),
    ("concurrent", .ofNat r.concurrent.toNat)]
  have hburst : ms.orElse "burst" uint32 0 = .ok r.burst := Json.uint32_draft r.burst
  have hlength : ms.orElse "burst_length" uint32 0 = .ok r.burstLength := Json.uint32_draft r.burstLength
  have hconcurrent : ms.orElse "concurrent" uint32 0 = .ok r.concurrent := Json.uint32_draft r.concurrent
  unfold read json
  rw [shape_draft_object]
  refine bind_eq_of_ok (record_drafts ?_ ?_ _ _) ?_
  · show ["burst", "burst_length", "concurrent"].Nodup
    decide
  · exact ⟨.may hburst, .may hlength, .may hconcurrent⟩
  · exact bind_eq_of_ok hburst (bind_eq_of_ok hlength (bind_eq_of_ok hconcurrent rfl))

/-- The limits of one direction are read back. -/
theorem DirectionLimits.read_json (surplus : Surplus) {d : DirectionLimits}
    (hb : d.mbps.burst.isFinite = true) (hc : d.mbps.concurrent.isFinite = true) :
    read surplus (draft d.json) = .ok d := by
  let ms := drafts [("mbps", d.mbps.json), ("iops", d.iops.json)]
  have hmbps : ms.orElse "mbps" (Throughput.read surplus) {} = .ok d.mbps :=
    Throughput.read_json surplus hb hc
  have hiops : ms.orElse "iops" (Rate.read surplus) {} = .ok d.iops := Rate.read_json surplus d.iops
  unfold read json
  rw [shape_draft_object]
  refine bind_eq_of_ok (record_drafts ?_ ?_ _ _) ?_
  · show ["mbps", "iops"].Nodup
    decide
  · exact ⟨.may hmbps, .may hiops⟩
  · exact bind_eq_of_ok hmbps (bind_eq_of_ok hiops rfl)

/-- **Limits are read back** if their throughputs are finite. -/
theorem Limits.read_json {l : Limits} (h : ∀ x ∈ l.throughputs, x.isFinite = true) (surplus : Surplus) :
    ofDocument surplus (draft l.json) = .ok l := by
  obtain ⟨hrb, hrc, hwb, hwc⟩ : l.read.mbps.burst.isFinite = true ∧ l.read.mbps.concurrent.isFinite = true ∧
      l.write.mbps.burst.isFinite = true ∧ l.write.mbps.concurrent.isFinite = true := by
    simpa [throughputs, FlatLimits.throughputs, flat] using h
  let ms := drafts [("read", l.read.json), ("write", l.write.json)]
  have hread : ms.orElse "read" (DirectionLimits.read surplus) {} = .ok l.read :=
    DirectionLimits.read_json surplus hrb hrc
  have hwrite : ms.orElse "write" (DirectionLimits.read surplus) {} = .ok l.write :=
    DirectionLimits.read_json surplus hwb hwc
  unfold ofDocument json
  rw [shape_draft_object]
  refine bind_eq_of_ok (record_drafts ?_ ?_ _ _) ?_
  · show ["read", "write"].Nodup
    decide
  · exact ⟨.may hread, .may hwrite⟩
  · exact bind_eq_of_ok hread (bind_eq_of_ok hwrite rfl)

/-! ## Options -/

/-- A label is read back as what it stands for, here and in the two choices below. -/
theorem ImageFormat.read_json (f : ImageFormat) : read (draft f.json) = .ok f := by
  cases f <;> rfl

theorem CacheMode.read_json (c : CacheMode) : read (draft c.json) = .ok c := by
  cases c <;> rfl

theorem IoEngine.read_json (e : IoEngine) : read (draft e.json) = .ok e := by
  cases e <;> rfl

/-- Options are read back, their limits among them. -/
theorem DiskOptions.ofMembers_members {o : DiskOptions} (h : ∀ x ∈ o.limits.throughputs, x.isFinite = true) :
    ofMembers (drafts o.members) = .ok o := by
  let ms := drafts o.members
  have hcache : ms.orElse "cache" (optional CacheMode.read) none = .ok o.cache :=
    optional_draft CacheMode.read_json o.cache
  have hengine : ms.orElse "async_io" (optional IoEngine.read) none = .ok o.engine :=
    optional_draft IoEngine.read_json o.engine
  have hdiscard : ms.orElse "discard" boolean false = .ok o.discard := rfl
  have hreplicate : ms.orElse "replicate" boolean false = .ok o.replicate := rfl
  have hbackup : ms.orElse "backup" boolean true = .ok o.backup := rfl
  have hserial : ms.orElse "serial" (optional text) none = .ok o.serial :=
    optional_draft (fun _ => rfl) o.serial
  have hwwn : ms.orElse "wwn" (optional text) none = .ok o.wwn := optional_draft (fun _ => rfl) o.wwn
  have hssd : ms.orElse "emulate_ssd" boolean false = .ok o.emulateSsd := rfl
  have hthread : ms.orElse "io_thread" boolean false = .ok o.ioThread := rfl
  have hro : ms.orElse "read_only" boolean false = .ok o.readOnly := rfl
  have hlimits : ms.orElse "bandwidth" (Limits.ofDocument .counted) {} = .ok o.limits :=
    Limits.read_json h .counted
  unfold ofMembers
  -- all members are gone over before any is read
  refine bind_eq_of_ok (survey_drafts ?_ ?_) ?_
  · show ["cache", "async_io", "discard", "replicate", "backup", "serial", "wwn", "emulate_ssd",
      "io_thread", "read_only", "bandwidth"].Nodup
    decide
  · exact ⟨.may hcache, .may hengine, .may hdiscard, .may hreplicate, .may hbackup, .may hserial, .may hwwn,
      .may hssd, .may hthread, .may hro, .may hlimits⟩
  · exact bind_eq_of_ok hcache <| bind_eq_of_ok hengine <| bind_eq_of_ok hdiscard <|
      bind_eq_of_ok hreplicate <| bind_eq_of_ok hbackup <| bind_eq_of_ok hserial <| bind_eq_of_ok hwwn <|
      bind_eq_of_ok hssd <| bind_eq_of_ok hthread <| bind_eq_of_ok hro <| bind_eq_of_ok hlimits rfl

/-! ## Variants -/

/-- A managed disk is read back. -/
theorem Volume.read_members {v : Volume} (h : ∀ x ∈ v.options.limits.throughputs, x.isFinite = true) :
    read (.map (drafts v.members) true) = .ok v := by
  let ms := drafts v.members
  have hstorage : ms.required "storage" text = .ok v.storage := rfl
  have hsize : ms.required "size" DiskSize.read = .ok v.size := by
    show (uint64 (draft (.ofNat v.size.kib.toNat))).map DiskSize.mk = _
    rw [uint64_draft]; rfl
  have hformat : ms.orElse "format" ImageFormat.read .raw = .ok v.format := ImageFormat.read_json v.format
  have hoptions : DiskOptions.ofMembers (ms.without ["storage", "size", "format"]) = .ok v.options :=
    DiskOptions.ofMembers_members h
  unfold read
  refine bind_eq_of_ok (splitRecord_drafts ?_ ?_ _) ?_
  · show ["storage", "size", "format", "cache", "async_io", "discard", "replicate", "backup", "serial",
      "wwn", "emulate_ssd", "io_thread", "read_only", "bandwidth"].Nodup
    decide
  · exact ⟨.need hstorage, .need hsize, .may hformat⟩
  · exact bind_eq_of_ok hstorage <| bind_eq_of_ok hsize <| bind_eq_of_ok hformat <|
      bind_eq_of_ok hoptions rfl

/-- A host disk is read back. -/
theorem HostDisk.read_members {d : HostDisk} (h : ∀ x ∈ d.options.limits.throughputs, x.isFinite = true) :
    read (.map (drafts d.members) true) = .ok d := by
  let ms := drafts d.members
  have hfile : ms.required "file" text = .ok d.file := rfl
  have hoptions : DiskOptions.ofMembers (ms.without ["file"]) = .ok d.options :=
    DiskOptions.ofMembers_members h
  unfold read
  refine bind_eq_of_ok (splitRecord_drafts ?_ ?_ _) ?_
  · show ["file", "cache", "async_io", "discard", "replicate", "backup", "serial", "wwn", "emulate_ssd",
      "io_thread", "read_only", "bandwidth"].Nodup
    decide
  · exact .need hfile
  · exact bind_eq_of_ok hfile (bind_eq_of_ok hoptions rfl)

/-- What is in a CD drive is read back. -/
theorem Medium.read_json (m : Medium) : read (draft m.json) = .ok m := by
  cases m with
  | none => rfl
  | passthrough => rfl
  | iso storage file =>
    let ms := drafts [("storage", .string storage), ("file", .string file)]
    have hstorage : ms.required "storage" text = .ok storage := rfl
    have hfile : ms.required "file" text = .ok file := rfl
    have hrecord : record "struct variant CdRomMedia::Iso" .counted
        [.need "storage" text, .need "file" text] (.map ms true) = .ok ms := by
      refine record_drafts ?_ ?_ _ _
      · show ["storage", "file"].Nodup
        decide
      · exact ⟨.need hstorage, .need hfile⟩
    have hiso : readIso (draft (.object [("storage", .string storage), ("file", .string file)])) =
        .ok (.iso storage file) := by
      unfold readIso
      rw [shape_draft_object]
      exact bind_eq_of_ok rfl <| bind_eq_of_ok hrecord <| bind_eq_of_ok hstorage <| bind_eq_of_ok hfile rfl
    exact hiso

namespace Variant

/-- The throughputs among the limits of a variant. -/
def throughputs : Variant → List Binary64
  | disk v => v.options.limits.throughputs
  | passthrough d => d.options.limits.throughputs
  | cdrom _ | cloudInit _ | delete | unchanged => []

/-- The members of a variant are read back by its tag. -/
theorem ofContent_members {v : Variant} (h : ∀ x ∈ v.throughputs, x.isFinite = true) :
    ofContent v.tag (.map (drafts v.members) true) = .ok v := by
  cases v with
  | disk v =>
    show (Volume.read (.map (drafts v.members) true)).map Variant.disk = _
    rw [Volume.read_members h]; rfl
  | passthrough d =>
    show (HostDisk.read (.map (drafts d.members) true)).map Variant.passthrough = _
    rw [HostDisk.read_members h]; rfl
  | cdrom m =>
    have hmedia : (drafts [("media", m.json)]).required "media" Medium.read = .ok m := Medium.read_json m
    refine bind_eq_of_ok (record_drafts ?_ ?_ _ _) (bind_eq_of_ok hmedia rfl)
    · exact List.nodup_singleton _
    · exact .need hmedia
  | cloudInit storage =>
    have hstorage : (drafts [("storage", .string storage)]).required "storage" text = .ok storage := rfl
    refine bind_eq_of_ok (record_drafts ?_ ?_ _ _) (bind_eq_of_ok hstorage rfl)
    · exact List.nodup_singleton _
    · exact .need hstorage
  | delete => rfl
  | unchanged => rfl

/-- No member has the key of the tag. -/
theorem type_not_mem_members (v : Variant) : "type" ∉ v.members.map (·.1) := by
  cases v with
  | disk v =>
    show "type" ∉ ["storage", "size", "format", "cache", "async_io", "discard", "replicate", "backup",
      "serial", "wwn", "emulate_ssd", "io_thread", "read_only", "bandwidth"]
    decide
  | passthrough d =>
    show "type" ∉ ["file", "cache", "async_io", "discard", "replicate", "backup", "serial", "wwn",
      "emulate_ssd", "io_thread", "read_only", "bandwidth"]
    decide
  | cdrom m =>
    show "type" ∉ ["media"]
    decide
  | cloudInit storage =>
    show "type" ∉ ["storage"]
    decide
  | delete => exact List.not_mem_nil
  | unchanged => exact List.not_mem_nil

/-- The tag is found, and the other members are left. -/
theorem tagMember_drafts {found : Option Tag} {ms : List (String × Json)} (h : "type" ∉ ms.map (·.1)) :
    tagMember "type" Tag.read found (drafts ms) = .ok found := by
  induction ms with
  | nil => rfl
  | cons m ms ih =>
    rw [List.map_cons, List.mem_cons, not_or] at h
    show (if m.1 = "type" then _ else if readable (draft m.2) then
      tagMember "type" Tag.read found (drafts ms) else _) = _
    rw [if_neg (Ne.symm h.1), if_pos (readable_draft m.2)]
    exact ih h.2

theorem without_drafts {ms : List (String × Json)} (h : "type" ∉ ms.map (·.1)) :
    Members.without ["type"] (drafts ms) = drafts ms := by
  unfold Members.without
  rw [List.filter_eq_self]
  intro m hm
  have hkey : m.1 ∈ ms.map (·.1) := by
    rw [← map_key_drafts]
    exact List.mem_map_of_mem hm
  have hne : m.1 ≠ "type" := fun he => h (he ▸ hkey)
  simpa using hne

/-- The tag stands first and is split off. -/
theorem tagged_json (v : Variant) : tagged "internally tagged enum DiskVariant" "type" Tag.read
    (.map (("type", draft (.string v.tag.label)) :: drafts v.members) true) =
      .ok (v.tag, .map (drafts v.members) true) := by
  have htag : Tag.read (draft (.string v.tag.label)) = .ok v.tag := by
    cases v <;> rfl
  have hfound : tagMember "type" Tag.read none (("type", draft (.string v.tag.label)) :: drafts v.members) =
      .ok (some v.tag) :=
    bind_eq_of_ok htag (tagMember_drafts v.type_not_mem_members)
  have hrest : Members.without ["type"] (("type", draft (.string v.tag.label)) :: drafts v.members) =
      drafts v.members :=
    without_drafts v.type_not_mem_members
  unfold tagged
  refine bind_eq_of_ok hfound (bind_eq_of_ok rfl ?_)
  show Except.ok (v.tag, Shape.map (Members.without ["type"] (("type", draft (.string v.tag.label)) ::
    drafts v.members)) true) = _
  rw [hrest]

/-- **A variant whose throughputs are finite is read back.** -/
theorem read_json {v : Variant} (h : ∀ x ∈ v.throughputs, x.isFinite = true) :
    read (draft v.json) = .ok v := by
  unfold read json
  rw [shape_draft_object]
  exact bind_eq_of_ok (tagged_json v) (ofContent_members h)

end Variant

/-! ## Configurations -/

namespace Configuration

/-- An entry as a member of the object of a configuration. -/
def member (e : Slot × Variant) : String × Json := (e.1.name, e.2.json)

/-- The throughputs among the limits of all slots. -/
def throughputs (c : Configuration) : List Binary64 := c.entries.flatMap (·.2.throughputs)

theorem mem_throughputs {c : Configuration} {s : Slot} {x : Binary64} (h : x ∈ (c.get s).throughputs) :
    x ∈ c.throughputs := by
  unfold throughputs
  rw [entries_eq, List.mem_flatMap]
  exact ⟨(s, c.get s), List.mem_map_of_mem (Slot.mem_all s), h⟩

/-- The entries of a configuration are the slots with what they hold. -/
theorem mem_entries {c : Configuration} {s : Slot} {v : Variant} : (s, v) ∈ c.entries ↔ v = c.get s := by
  rw [entries_eq, List.mem_map]
  constructor
  · rintro ⟨t, -, h⟩
    cases h; rfl
  · rintro rfl
    exact ⟨s, Slot.mem_all s, rfl⟩

theorem readMember_member {e : Slot × Variant} (h : ∀ x ∈ e.2.throughputs, x.isFinite = true) :
    readMember ((member e).1, draft (member e).2) = .ok e := by
  have hslot : (Slot.ofName e.1.name).mapError (fun f => Fault.refused f.message) = .ok e.1 := by
    rw [Slot.ofName_name]; rfl
  exact bind_eq_of_ok hslot (bind_eq_of_ok (Variant.read_json h) rfl)

/-- Members are read back one by one. -/
theorem mapM_readMember {es : List (Slot × Variant)}
    (h : ∀ e ∈ es, ∀ x ∈ e.2.throughputs, x.isFinite = true) :
    (drafts (es.map member)).mapM readMember = .ok es := by
  induction es with
  | nil => rfl
  | cons e es ih =>
    obtain ⟨he, hes⟩ := List.forall_mem_cons.1 h
    show ((((member e).1, draft (member e).2) :: drafts (es.map member)).mapM readMember) = _
    rw [List.mapM_cons]
    exact bind_eq_of_ok (readMember_member he) (bind_eq_of_ok (ih hes) rfl)

/-- Entries of a configuration among which all are that are not deleted are as good as all of them. -/
theorem ofList_eq {c : Configuration} {es : List (Slot × Variant)} (hsub : ∀ e ∈ es, e.2 = c.get e.1)
    (hall : ∀ s, c.get s ≠ .delete → (s, c.get s) ∈ es) : ofList es = c := by
  apply ext_get
  intro s
  rw [get_ofList]
  cases hl : es.reverse.lookup s with
  | some v =>
    have hmem : (s, v) ∈ es := List.mem_reverse.1 (mem_of_lookup hl)
    exact hsub (s, v) hmem
  | none =>
    by_cases hd : c.get s = .delete
    · rw [hd]; rfl
    · have hmem := List.mem_reverse.2 (hall s hd)
      rw [List.lookup_eq_none_iff] at hl
      exact absurd (hl _ hmem) (by simp)

/-- Members that are entries reordered come from entries reordered. -/
theorem exists_entries_of_perm {ms : List (String × Json)} {es : List (Slot × Variant)}
    (h : ms.Perm (es.map member)) : ∃ fs : List (Slot × Variant), ms = fs.map member ∧ fs.Perm es := by
  have hswap := congrFun₂ (List.eq_map_comp_perm member) ms es
  exact hswap.mpr h

/-- **What is written for a configuration is read as the configuration**, whatever the order of the
slots and whichever deleted slots are left out. -/
theorem read_draft {c : Configuration} (hfinite : ∀ x ∈ c.throughputs, x.isFinite = true)
    (keep : Slot → Bool) (hkeep : ∀ s, c.get s ≠ .delete → keep s = true) {ms : List (String × Json)}
    (hms : ms.Perm ((c.entries.filter fun e => keep e.1).map member)) :
    read (draft (.object ms)) = .ok c := by
  obtain ⟨es, rfl, hes⟩ := exists_entries_of_perm hms
  have hsub : ∀ e ∈ es, e.2 = c.get e.1 := by
    intro e he
    exact mem_entries.1 (List.mem_filter.1 (hes.mem_iff.1 he)).1
  have hall : ∀ s, c.get s ≠ .delete → (s, c.get s) ∈ es := by
    intro s hs
    exact hes.mem_iff.2 (List.mem_filter.2 ⟨mem_entries.2 rfl, hkeep s hs⟩)
  have hmapM : (drafts (es.map member)).mapM readMember = .ok es := by
    apply mapM_readMember
    intro e he x hx
    rw [hsub e he] at hx
    exact hfinite x (mem_throughputs hx)
  unfold read
  rw [shape_draft_object]
  refine bind_eq_of_ok hmapM (bind_eq_of_ok rfl ?_)
  show Except.ok (ofList es) = _
  rw [ofList_eq hsub hall]

end Configuration

/-! ## Texts of configurations -/

namespace Json

theorem hasPrintable_iff {ms : List (String × Json)} : HasPrintable ms ↔ ∀ m ∈ ms, IsPrintable m.2 := by
  induction ms with
  | nil => exact ⟨fun _ _ h => absurd h List.not_mem_nil, fun _ => trivial⟩
  | cons m ms ih =>
    have hcons := List.forall_mem_cons (p := fun m : String × Json => IsPrintable m.2) (a := m) (l := ms)
    exact (and_congr_right fun _ => ih).trans hcons.symm

theorem isPrintable_ofReal {x : Binary64} (h : IsReadBack x) : IsPrintable (.ofReal x) := by
  unfold ofReal
  split
  · exact h
  · trivial

theorem isPrintable_uint32 (n : UInt32) : IsPrintable (.ofNat n.toNat) := by
  have hlt : n.toNat < 2 ^ 32 := n.toNat_lt
  show FitsWord n.toNat
  unfold FitsWord
  omega

theorem isPrintable_uint64 (n : UInt64) : IsPrintable (.ofNat n.toNat) := by
  have hlt : n.toNat < 2 ^ 64 := n.toNat_lt
  show FitsWord n.toNat
  unfold FitsWord
  omega

theorem isPrintable_ofOption {β : Type} (label : β → String) (o : Option β) :
    IsPrintable (.ofOption (o.map fun b => .string (label b))) := by
  cases o <;> trivial

end Json

/-- Limits are printed so that they can be read if each throughput is. -/
theorem Limits.isPrintable_json {l : Limits} (h : ∀ x ∈ l.throughputs, IsReadBack x) :
    IsPrintable l.json := by
  obtain ⟨hrb, hrc, hwb, hwc⟩ : IsReadBack l.read.mbps.burst ∧ IsReadBack l.read.mbps.concurrent ∧
      IsReadBack l.write.mbps.burst ∧ IsReadBack l.write.mbps.concurrent := by
    simpa [throughputs, FlatLimits.throughputs, flat] using h
  have hrate : ∀ r : Rate, IsPrintable r.json := fun r =>
    ⟨isPrintable_uint32 r.burst, isPrintable_uint32 r.burstLength, isPrintable_uint32 r.concurrent, trivial⟩
  have hread : IsPrintable l.read.json :=
    ⟨⟨isPrintable_ofReal hrb, isPrintable_ofReal hrc, trivial⟩, hrate _, trivial⟩
  have hwrite : IsPrintable l.write.json :=
    ⟨⟨isPrintable_ofReal hwb, isPrintable_ofReal hwc, trivial⟩, hrate _, trivial⟩
  exact ⟨hread, hwrite, trivial⟩

theorem DiskOptions.hasPrintable_members {o : DiskOptions} (h : ∀ x ∈ o.limits.throughputs, IsReadBack x) :
    HasPrintable o.members :=
  ⟨isPrintable_ofOption _ o.cache, isPrintable_ofOption _ o.engine, trivial, trivial, trivial,
    isPrintable_ofOption _ o.serial, isPrintable_ofOption _ o.wwn, trivial, trivial, trivial,
    Limits.isPrintable_json h, trivial⟩

/-- A variant is printed so that it can be read if each of its throughputs is. -/
theorem Variant.isPrintable_json {v : Variant} (h : ∀ x ∈ v.throughputs, IsReadBack x) :
    IsPrintable v.json := by
  refine ⟨trivial, ?_⟩
  cases v with
  | disk v => exact ⟨trivial, isPrintable_uint64 v.size.kib, trivial, DiskOptions.hasPrintable_members h⟩
  | passthrough d => exact ⟨trivial, DiskOptions.hasPrintable_members h⟩
  | cdrom m => cases m <;> exact ⟨by repeat constructor, trivial⟩
  | cloudInit storage => exact ⟨trivial, trivial⟩
  | delete => trivial
  | unchanged => trivial

namespace Configuration

/-- **A configuration comes back from its canonical form.** If its throughputs are finite, what is
written for it is read as the configuration itself, to the bit; and so is any reordering of the slots'
members, from which members of deleted slots may be missing. If the throughputs are read back from
their texts, then the same holds of the compact and of the indented text. -/
theorem read_written {c : Configuration} (hfinite : ∀ x ∈ c.throughputs, x.isFinite = true) :
    read (draft c.json) = .ok c ∧
      ∀ keep : Slot → Bool, (∀ s, c.get s ≠ .delete → keep s = true) →
        ∀ ms : List (String × Json), ms.Perm ((c.entries.filter fun e => keep e.1).map member) →
          read (draft (.object ms)) = .ok c ∧
          ((∀ x ∈ c.throughputs, IsReadBack x) →
            readDocument read (compact (.object ms)) = .ok c ∧
            readDocument read (pretty (.object ms)) = .ok c) := by
  constructor
  · have hall : (c.entries.filter fun _ => true).map member = c.entries.map member := by
      rw [List.filter_true]
    exact read_draft hfinite (fun _ => true) (fun _ _ => rfl) (hall ▸ List.Perm.refl _)
  · intro keep hkeep ms hms
    have hread : read (draft (.object ms)) = .ok c := read_draft hfinite keep hkeep hms
    refine ⟨hread, fun hback => ?_⟩
    have hprintable : IsPrintable (.object ms) := by
      refine hasPrintable_iff.2 fun m hm => ?_
      obtain ⟨⟨s, v⟩, he, rfl⟩ := List.mem_map.1 (hms.mem_iff.1 hm)
      apply Variant.isPrintable_json
      intro x hx
      rw [mem_entries.1 (List.mem_filter.1 he).1] at hx
      exact hback x (mem_throughputs hx)
    have htext : ∀ text, readDraft text = (draft (.object ms), true) → readDocument read text = .ok c := by
      intro text h
      unfold readDocument
      rw [h]
      exact bind_eq_of_ok hread rfl
    exact ⟨htext _ (readDraft_compact hprintable), htext _ (readDraft_pretty hprintable)⟩

/-- A disk with a limit of one and a half, and a slot left as it is, come back from the text that names
these two slots alone and the later one first. -/
theorem read_written_two_slots :
    let burst : Binary64 := ⟨false, 1023, 0x8000000000000⟩
    let disk : Variant :=
      .disk { storage := "local", size := ⟨1024⟩, options := { limits := { read := { mbps := { burst } } } } }
    let c := (empty.set ⟨.ide, 2, by decide⟩ .unchanged).set ⟨.scsi, 0, by decide⟩ disk
    (∀ x ∈ c.throughputs, x.isFinite = true ∧ IsReadBack x) ∧ read (draft c.json) = .ok c ∧
      readDocument read (compact (.object [("scsi0", disk.json), ("ide2", Variant.unchanged.json)])) = .ok c := by
  intro burst disk c
  have hthroughputs : c.throughputs = [burst, .zero, .zero, .zero] := by decide +kernel
  have hburst : IsReadBack burst :=
    isReadBack_of_parts (by decide +kernel : compact (.real burst) = "1.5") rfl (by decide +kernel)
  have hzero : IsReadBack .zero :=
    isReadBack_of_parts (by decide +kernel : compact (.real .zero) = "0.0") rfl (by decide +kernel)
  have hgood : ∀ x ∈ c.throughputs, x.isFinite = true ∧ IsReadBack x := by
    rw [hthroughputs]
    simp only [List.forall_mem_cons, List.not_mem_nil, false_imp_iff, implies_true, and_true]
    exact ⟨⟨rfl, hburst⟩, ⟨rfl, hzero⟩, ⟨rfl, hzero⟩, ⟨rfl, hzero⟩⟩
  have hmembers : (c.entries.filter fun e => decide (c.get e.1 ≠ .delete)).map member =
      [("ide2", Variant.unchanged.json), ("scsi0", disk.json)] := by
    have hentries : c.entries.filter (fun e => decide (c.get e.1 ≠ .delete)) =
        [(⟨.ide, 2, by decide⟩, .unchanged), (⟨.scsi, 0, by decide⟩, disk)] := by decide +kernel
    have hide : (⟨.ide, 2, by decide⟩ : Slot).name = "ide2" := by decide +kernel
    have hscsi : (⟨.scsi, 0, by decide⟩ : Slot).name = "scsi0" := by decide +kernel
    rw [hentries, List.map_cons, List.map_singleton]
    unfold member
    rw [hide, hscsi]
  obtain ⟨hwhole, hparts⟩ := read_written fun x hx => (hgood x hx).1
  obtain ⟨-, htexts⟩ := hparts (fun s => decide (c.get s ≠ .delete)) (fun s hs => decide_eq_true hs)
    [("scsi0", disk.json), ("ide2", Variant.unchanged.json)] (by rw [hmembers]; exact .swap ..)
  exact ⟨hgood, hwhole, (htexts fun x hx => (hgood x hx).2).1⟩

end Configuration

end GuestDisks
