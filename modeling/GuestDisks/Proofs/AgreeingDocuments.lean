import GuestDisks.Proofs.DocumentsReadBack

/-!
# Documents that agree are decoded alike

Two documents agree if they differ in no more than the signs of zeros (`==`, where every number is one). No
check tells such zeros apart, so what is asked for in agreeing fields is built alike (`Checked.Alike`): the
findings are the same, there is a device in both cases or in neither, and the devices agree.

Lists and maps are decoded entry by entry and table by table, so this goes for whole documents: agreeing
documents are reported on in the same way, and they come to agreeing configurations
(`Document.decode_of_beq`).
-/

namespace GuestDisks

open Data

/-! ## Options and lists, part by part -/

section Parts

variable {α α' β β' : Type} {S : α → α' → Prop} {R : β → β' → Prop} {o : Option α} {o' : Option α'}

theorem rel_refl {T : α → α → Prop} (h : ∀ a, T a a) (o : Option α) : Option.Rel T o o := by
  cases o with
  | none => exact .none
  | some a => exact .some (h a)

theorem rel_map (h : Option.Rel S o o') {f : α → β} {f' : α' → β'} (hf : ∀ a a', S a a' → R (f a) (f' a')) :
    Option.Rel R (o.map f) (o'.map f') := by
  cases h with
  | none => exact .none
  | some ha => exact .some (hf _ _ ha)

/-- Options that are related stay so through related steps. -/
theorem rel_bind (h : Option.Rel S o o') {f : α → Option β} {f' : α' → Option β'}
    (hf : ∀ a a', S a a' → Option.Rel R (f a) (f' a')) : Option.Rel R (o.bind f) (o'.bind f') := by
  cases h with
  | none => exact .none
  | some ha => exact hf _ _ ha

theorem rel_getD (h : Option.Rel S o o') {a : α} {a' : α'} (ha : S a a') : S (o.getD a) (o'.getD a') := by
  cases h with
  | none => exact ha
  | some hb => exact hb

theorem elim_eq_of_rel (h : Option.Rel S o o') {f : α → β} {f' : α' → β} (b : β)
    (hf : ∀ a a', S a a' → f a = f' a') : o.elim b f = o'.elim b f' := by
  cases h with
  | none => rfl
  | some ha => exact hf _ _ ha

/-- Lists that agree do so element by element. -/
theorem forall₂_of_beq [BEq α] {xs ys : List α} (h : (xs == ys) = true) :
    List.Forall₂ (fun a b => (a == b) = true) xs ys := by
  induction xs generalizing ys with
  | nil =>
    cases ys with
    | nil => exact .nil
    | cons b ys => cases h
  | cons a xs ih =>
    cases ys with
    | nil => cases h
    | cons b ys =>
      rw [List.cons_beq_cons, Bool.and_eq_true] at h
      exact .cons h.1 (ih h.2)

theorem flatMap_eq_of_forall₂ {xs : List α} {ys : List α'} (h : List.Forall₂ S xs ys) {f : α → List β}
    {f' : α' → List β} (hf : ∀ a a', S a a' → f a = f' a') : xs.flatMap f = ys.flatMap f' := by
  induction h with
  | nil => rfl
  | cons hab _ ih => rw [List.flatMap_cons, List.flatMap_cons, hf _ _ hab, ih]

end Parts

namespace Data.KeyMap

variable {α : Type} [BEq α] {m n : KeyMap α}

/-- Maps that agree have agreeing values under the same keys. -/
theorem entries_of_beq (h : (m == n) = true) :
    List.Forall₂ (fun e f => e.1 = f.1 ∧ (e.2 == f.2) = true) m.entries n.entries := by
  have hentries : (m.entries == n.entries) = true := h
  refine (forall₂_of_beq hentries).imp fun e f hef => ?_
  have hpair : (e.1 == f.1 && e.2 == f.2) = true := hef
  rwa [Bool.and_eq_true, beq_iff_eq] at hpair

/-- Maps that agree have the same keys. -/
theorem keys_of_beq (h : (m == n) = true) : m.keys = n.keys := by
  have hkeys : List.Forall₂ (· = ·) (m.entries.map (·.1)) (n.entries.map (·.1)) := by
    rw [List.forall₂_map_left_iff, List.forall₂_map_right_iff]
    exact (entries_of_beq h).imp fun _ _ hef => hef.1
  rwa [List.forall₂_eq_eq_eq] at hkeys

/-- Maps that agree have agreeing values under each key. -/
theorem get?_of_beq (h : (m == n) = true) (key : String) :
    Option.Rel (fun a b => (a == b) = true) (m.get? key) (n.get? key) := by
  have hentries := entries_of_beq h
  unfold get?
  generalize m.entries = es at hentries
  generalize n.entries = fs at hentries
  induction hentries with
  | nil => exact .none
  | @cons e f es fs hef _ ih =>
    rw [lookup_cons_eq_ite, lookup_cons_eq_ite, hef.1]
    split
    · exact .some hef.2
    · exact ih

end Data.KeyMap

/-! ## Outcomes that are alike -/

namespace Checked

variable {α α' β β' γ : Type}

/-- Outcomes with the same findings, and with related values or none. -/
structure Alike (R : α → α' → Prop) (x : Checked α) (y : Checked α') : Prop where
  value : Option.Rel R x.value y.value
  findings : x.findings = y.findings

variable {S : α → α' → Prop} {R : β → β' → Prop}

theorem Alike.same {T : α → α → Prop} (h : ∀ a, T a a) (x : Checked α) : Alike T x x :=
  ⟨rel_refl h x.value, rfl⟩

theorem Alike.map {f : α → β} {f' : α' → β'} {x : Checked α} {x' : Checked α'}
    (hf : ∀ a a', S a a' → R (f a) (f' a')) (h : Alike S x x') : Alike R (f <$> x) (f' <$> x') :=
  ⟨rel_map h.value hf, h.findings⟩

/-- Outcomes are alike if their parts are. -/
theorem Alike.seq {f : Checked (α → β)} {f' : Checked (α' → β')} {x : Checked α} {x' : Checked α'}
    (hf : Alike (fun g g' => ∀ a a', S a a' → R (g a) (g' a')) f f') (hx : Alike S x x') :
    Alike R (f <*> x) (f' <*> x') where
  value := rel_bind hf.value fun _ _ hg => rel_map hx.value hg
  findings := by rw [findings_seq, findings_seq, hf.findings, hx.findings]

/-- A check that is the same on both sides. -/
theorem Alike.apply {f : Checked (γ → β)} {f' : Checked (γ → β')}
    (hf : Alike (fun g g' => ∀ c, R (g c) (g' c)) f f') (x : Checked γ) : Alike R (f <*> x) (f' <*> x) where
  value := by
    refine rel_bind hf.value fun g g' hg => rel_map (S := Eq) (rel_refl (fun _ => rfl) x.value) ?_
    rintro c _ rfl
    exact hg c
  findings := by rw [findings_seq, findings_seq, hf.findings]

/-- Outcomes are alike after the same first part. -/
theorem Alike.seqRight {y : Checked β} {y' : Checked β'} (x : Checked α) (h : Alike R y y') :
    Alike R (x *> y) (x *> y') where
  value := by
    rw [value_seqRight, value_seqRight]
    exact rel_bind (S := Eq) (rel_refl (fun _ => rfl) x.value) fun _ _ _ => h.value
  findings := by rw [findings_seqRight, findings_seqRight, h.findings]

end Checked

open Checked

/-! ## Limits -/

/-- Doubles agree only if they are the same or both zero. -/
theorem Binary64.eq_or_isZero_of_beq {x y : Binary64} (h : (x == y) = true) :
    x = y ∨ x.isZero = true ∧ y.isZero = true := by
  rw [beq_eq] at h
  simp only [Bool.and_eq_true, Bool.or_eq_true, decide_eq_true_eq] at h
  exact h.2

theorem Binary64.isZero_of_beq {x y : Binary64} (h : (x == y) = true) : x.isZero = y.isZero := by
  rcases eq_or_isZero_of_beq h with rfl | ⟨hx, hy⟩
  · rfl
  · rw [hx, hy]

/-- A throughput is refused in the same way whatever the sign of zero. -/
theorem Check.throughput_of_beq (key : String) {x y : Binary64} (h : (x == y) = true) :
    throughput (key, x) = throughput (key, y) := by
  rcases Binary64.eq_or_isZero_of_beq h with rfl | ⟨hx, hy⟩
  · rfl
  · have hbounds : x.IsBound ∧ y.IsBound := ⟨Binary64.isBound_of_isZero hx, Binary64.isBound_of_isZero hy⟩
    rw [throughput_eq_ok_iff.2 hbounds.1, throughput_eq_ok_iff.2 hbounds.2]

/-- Limits that agree are checked alike. -/
theorem Checked.alike_limits {f g : FlatLimits Int} (h : (f == g) = true) :
    Alike (fun l m => (l == m) = true) (ofExcept (Check.limits f)) (ofExcept (Check.limits g)) := by
  obtain ⟨⟨h1, h2, h3, h4⟩, hrates⟩ := FlatLimits.beq_iff.1 h
  have hthroughputs : f.throughputs.forM Check.throughput = g.throughputs.forM Check.throughput := by
    unfold FlatLimits.throughputs
    simp only [List.forM, Check.throughput_of_beq _ h1, Check.throughput_of_beq _ h2,
      Check.throughput_of_beq _ h3, Check.throughput_of_beq _ h4]
  have hgrouped : ((f.mapRates fun n => UInt32.ofNat n.toNat).grouped ==
      (g.mapRates fun n => UInt32.ofNat n.toNat).grouped) = true := by
    have hsame := hrates
    simp only [FlatLimits.rates, List.cons.injEq, Prod.mk.injEq, true_and, and_true] at hsame
    obtain ⟨e1, e2, e3, e4, e5, e6⟩ := hsame
    rw [Limits.beq_iff]
    unfold FlatLimits.grouped FlatLimits.mapRates
    rw [e1, e2, e3, e4, e5, e6]
    exact ⟨⟨h1, h2⟩, Rate.beq_self _, ⟨h3, h4⟩, Rate.beq_self _⟩
  -- either the same key is refused on both sides, or the limits are accepted as they are
  unfold Check.limits
  rw [hthroughputs, hrates]
  cases g.throughputs.forM Check.throughput with
  | error p => exact ⟨.none, rfl⟩
  | ok _ =>
    cases g.rates.forM Check.rate with
    | error p => exact ⟨.none, rfl⟩
    | ok _ => exact ⟨.some hgrouped, rfl⟩

/-- Settings that agree are given under the same keys. -/
theorem Settings.populated_of_beq {s t : Settings} (h : (s == t) = true) : s.populated = t.populated := by
  obtain ⟨he, hlimits⟩ := Settings.beq_iff.1 h
  obtain ⟨⟨h1, h2, h3, h4⟩, hrates⟩ := FlatLimits.beq_iff.1 hlimits
  have hthroughputs : (s.limits.throughputs.filter fun e => !e.2.isZero).map (·.1) =
      (t.limits.throughputs.filter fun e => !e.2.isZero).map (·.1) := by
    unfold FlatLimits.throughputs
    simp only [List.filter_cons, Binary64.isZero_of_beq h1, Binary64.isZero_of_beq h2,
      Binary64.isZero_of_beq h3, Binary64.isZero_of_beq h4]
    split <;> split <;> split <;> split <;> rfl
  rw [← he]
  -- the texts and flags are the same, and a throughput is supplied if it is not zero
  unfold populated
  rw [hthroughputs, hrates]
  rfl

/-! ## Requests -/

namespace Request

variable (s : Slot) (kind : Kind) (passthrough : Bool) {f g : Fields}

/-- Fields that agree are built to agreeing options. So it is with each sort of device below. -/
theorem alike_options (h : (f == g) = true) : Alike (fun o p => (o == p) = true)
    (options ⟨s, kind, passthrough, f⟩) (options ⟨s, kind, passthrough, g⟩) := by
  obtain ⟨hfields, hsettings⟩ := Fields.beq_iff.1 h
  obtain ⟨hrest, hlimits⟩ := Settings.beq_iff.1 hsettings
  rw [← hfields, ← hrest]
  refine Alike.seq ?_ (alike_limits hlimits)
  -- the other options are the same on both sides, whatever they are
  iterate 9 refine Alike.apply ?_ _
  refine Alike.map (S := Eq) ?_ (.same (fun _ => rfl) _)
  rintro cache _ rfl engine discard replicate backup serial wwn emulateSsd ioThread readOnly l m hl
  exact DiskOptions.beq_iff.2 ⟨rfl, hl⟩

theorem alike_volume (h : (f == g) = true) : Alike (fun v w => (Variant.disk v == .disk w) = true)
    (volume ⟨s, kind, passthrough, f⟩) (volume ⟨s, kind, passthrough, g⟩) := by
  have hoptions := alike_options s kind passthrough h
  obtain ⟨hfields, -⟩ := Fields.beq_iff.1 h
  rw [← hfields] at hoptions ⊢
  refine Alike.seqRight _ (Alike.seq ?_ hoptions)
  iterate 2 refine Alike.apply ?_ _
  refine Alike.map (S := Eq) ?_ (.same (fun _ => rfl) _)
  rintro storage _ rfl size format o p hoptions
  exact Variant.beq_disk_iff.2 ⟨rfl, rfl, rfl, hoptions⟩

theorem alike_hostDisk (h : (f == g) = true) :
    Alike (fun d e => (Variant.passthrough d == .passthrough e) = true)
      (hostDisk ⟨s, kind, passthrough, f⟩) (hostDisk ⟨s, kind, passthrough, g⟩) := by
  have hoptions := alike_options s kind passthrough h
  obtain ⟨hfields, -⟩ := Fields.beq_iff.1 h
  rw [← hfields] at hoptions ⊢
  refine Alike.seqRight _ (Alike.seq ?_ hoptions)
  refine Alike.map (S := Eq) ?_ (.same (fun _ => rfl) _)
  rintro file _ rfl o p hoptions
  exact Variant.beq_passthrough_iff.2 ⟨rfl, hoptions⟩

/-- **Requests with agreeing fields are built alike.** -/
theorem alike_build (h : (f == g) = true) :
    Alike (fun v w => (v == w) = true) (build ⟨s, kind, passthrough, f⟩) (build ⟨s, kind, passthrough, g⟩) := by
  obtain ⟨hfields, hsettings⟩ := Fields.beq_iff.1 h
  have hpopulated : g.settings.populated = f.settings.populated := (Settings.populated_of_beq hsettings).symm
  -- the limits of a disk come into what is built, those of a drive only into what is warned about
  cases kind with
  | disk =>
    cases passthrough with
    | false => exact (alike_volume s .disk false h).map fun _ _ hv => hv
    | true => exact (alike_hostDisk s .disk true h).map fun _ _ hd => hd
  | cdrom =>
    have hmedium : medium ⟨s, .cdrom, passthrough, f⟩ = medium ⟨s, .cdrom, passthrough, g⟩ := by
      rw [← hfields]
      unfold medium
      rw [hpopulated]
      rfl
    show Alike _ (Variant.cdrom <$> medium _) (Variant.cdrom <$> medium _)
    rw [hmedium]
    refine Alike.map (S := Eq) ?_ (.same (fun _ => rfl) _)
    rintro m _ rfl
    exact decide_eq_true rfl
  | cloudInit =>
    have hstorage : cloudInit ⟨s, .cloudInit, passthrough, f⟩ = cloudInit ⟨s, .cloudInit, passthrough, g⟩ := by
      rw [← hfields]
      unfold cloudInit
      rw [hpopulated]
      rfl
    show Alike _ (Variant.cloudInit <$> cloudInit _) (Variant.cloudInit <$> cloudInit _)
    rw [hstorage]
    refine Alike.map (S := Eq) ?_ (.same (fun _ => rfl) _)
    rintro storage _ rfl
    exact decide_eq_true rfl

end Request

/-! ## Lists -/

namespace Entry

variable {e f : Entry}

/-- Entries that agree name the same slot. -/
theorem names_of_beq (h : (e == f) = true) (s : Slot) : e.names s = f.names s := by
  unfold names
  rw [(beq_iff.1 h).1.1]

/-- Entries that agree want the same of their slot. -/
theorem alike_wanted (h : (e == f) = true) (s : Slot) :
    Alike (fun v w => (v == w) = true) (e.wanted s) (f.wanted s) := by
  obtain ⟨⟨-, hkind, hpassthrough⟩, hfields, -⟩ := beq_iff.1 h
  unfold wanted
  rw [hkind, hpassthrough]
  cases Kind.ofName f.kind with
  | error p => exact ⟨.none, rfl⟩
  | ok kind => exact Request.alike_build s kind f.passthrough hfields

/-- Entries that agree are reported alike. -/
theorem reports_of_beq (h : (e == f) = true) {before before' : List Entry}
    (hb : ∀ s, before.any (·.names s) = before'.any (·.names s)) (position : Nat) :
    e.reports before position = f.reports before' position := by
  obtain ⟨⟨hslot, -, -⟩, -, hunknown⟩ := beq_iff.1 h
  unfold reports
  rw [hslot, KeyMap.keys_of_beq hunknown]
  simp only [hb, (alike_wanted h _).findings]

end Entry

namespace DiskList

/-- Lists that agree mean the same for each slot. -/
theorem meaning_of_beq {es fs : List Entry} (h : List.Forall₂ (fun e f => (e == f) = true) es fs) (s : Slot) :
    (meaning es s == meaning fs s) = true := by
  have hfind : Option.Rel (fun e f => (e == f) = true) (es.find? (·.names s)) (fs.find? (·.names s)) := by
    induction h with
    | nil => exact .none
    | @cons e f es fs hef _ ih =>
      rw [List.find?_cons, List.find?_cons, Entry.names_of_beq hef s]
      cases f.names s with
      | false => exact ih
      | true => exact .some hef
  unfold meaning
  exact rel_getD (rel_bind hfind fun e f hef => (Entry.alike_wanted hef s).value) rfl

/-- Lists that agree are reported alike, after others that name the same slots. -/
theorem reportsFrom_of_beq {es fs before before' : List Entry}
    (h : List.Forall₂ (fun e f => (e == f) = true) es fs) (hlength : before.length = before'.length)
    (hb : ∀ s, before.any (·.names s) = before'.any (·.names s)) :
    reportsFrom before es = reportsFrom before' fs := by
  induction h generalizing before before' with
  | nil => rfl
  | @cons e f es fs hef _ ih =>
    have hlength' : (before ++ [e]).length = (before' ++ [f]).length := by
      rw [List.length_append, List.length_append, hlength, List.length_singleton, List.length_singleton]
    have hb' : ∀ s, (before ++ [e]).any (·.names s) = (before' ++ [f]).any (·.names s) := by
      intro s
      rw [List.any_append, List.any_append, hb s, List.any_cons, List.any_cons, Entry.names_of_beq hef s]
    rw [reportsFrom_cons, reportsFrom_cons, Entry.reports_of_beq hef hb, hlength, ih hlength' hb']

/-- **Agreeing lists are decoded alike.** -/
theorem decode_of_beq {es fs : List Entry} (h : (es == fs) = true) :
    ((decode es).1.config == (decode fs).1.config) = true ∧ (decode es).1.report = (decode fs).1.report := by
  constructor
  · rw [Configuration.beq_iff]
    intro s
    rw [get_decode, get_decode]
    exact meaning_of_beq (forall₂_of_beq h) s
  · have hreports : ∀ l : List Entry, reports l = reportsFrom [] l := fun _ => rfl
    rw [report_decode, report_decode, hreports, hreports]
    exact reportsFrom_of_beq (forall₂_of_beq h) rfl fun _ => rfl

end DiskList

/-! ## Slot tables -/

/-- Devices that are asked for in agreeing words. -/
structure BlockRequest.Agrees (d d' : BlockRequest) : Prop where
  block : d.block = d'.block
  passthrough : d.passthrough = d'.passthrough
  fields : (d.fields == d'.fields) = true
  unknown : d.unknown.keys = d'.unknown.keys

namespace SlotTable

variable {t u : SlotTable}

theorem agrees_of_beq {β : Type} [BEq β] {o o' : Option β} {f : β → BlockRequest} (h : (o == o') = true)
    (hf : ∀ b c, (b == c) = true → (f b).Agrees (f c)) :
    List.Forall₂ BlockRequest.Agrees (o.toList.map f) (o'.toList.map f) := by
  cases o <;> cases o'
  case none.none => exact .nil
  case some.some b c => exact .cons (hf b c h) .nil
  all_goals cases h

/-- Agreeing tables ask for the same devices in agreeing words. -/
theorem devices_of_beq (h : (t == u) = true) : List.Forall₂ BlockRequest.Agrees t.devices u.devices := by
  obtain ⟨-, hdisk, hpassthrough, hcdrom, hcloudInit, -⟩ := beq_iff.1 h
  have hdefault : (({} : Settings) == {}) = true := by decide
  unfold devices
  refine List.rel_append (List.rel_append (List.rel_append ?_ ?_) ?_) ?_
  · refine agrees_of_beq hdisk fun b c hbc => ?_
    obtain ⟨⟨hstorage, hsize, hformat⟩, hsettings, hunknown⟩ := DiskBlock.beq_iff.1 hbc
    exact ⟨rfl, rfl, Fields.beq_iff.2 ⟨by rw [hstorage, hsize, hformat], hsettings⟩,
      KeyMap.keys_of_beq hunknown⟩
  · refine agrees_of_beq hpassthrough fun b c hbc => ?_
    obtain ⟨hfile, hsettings, hunknown⟩ := HostDiskBlock.beq_iff.1 hbc
    exact ⟨rfl, rfl, Fields.beq_iff.2 ⟨by rw [hfile], hsettings⟩, KeyMap.keys_of_beq hunknown⟩
  · refine agrees_of_beq hcdrom fun b c hbc => ?_
    obtain ⟨⟨hiso, hpassthrough⟩, hunknown⟩ := CdromBlock.beq_iff.1 hbc
    exact ⟨rfl, hpassthrough, Fields.beq_iff.2 ⟨by rw [hiso], hdefault⟩, KeyMap.keys_of_beq hunknown⟩
  · refine agrees_of_beq hcloudInit fun b c hbc => ?_
    obtain ⟨hstorage, hunknown⟩ := CloudInitBlock.beq_iff.1 hbc
    exact ⟨rfl, rfl, Fields.beq_iff.2 ⟨by rw [hstorage], hdefault⟩, KeyMap.keys_of_beq hunknown⟩

/-- Tables that agree want the same of their slot. -/
theorem wanted_of_beq (h : (t == u) = true) (s : Slot) :
    Option.Rel (Alike fun v w => (v == w) = true) (t.wanted s) (u.wanted s) := by
  have hdevices := devices_of_beq h
  have hignore : t.ignore = u.ignore := (beq_iff.1 h).1
  rw [wanted_eq, wanted_eq, hignore]
  generalize t.devices = ds at hdevices
  generalize u.devices = ds' at hdevices
  cases hdevices with
  | nil =>
    cases u.ignore with
    | false => exact .none
    | true => exact .some ⟨.some rfl, rfl⟩
  | @cons d d' ds ds' hd hds =>
    cases hds with
    | nil =>
      cases u.ignore with
      | false =>
        refine .some ?_
        unfold BlockRequest.on
        rw [hd.block, hd.passthrough]
        exact Request.alike_build s _ _ hd.fields
      | true => exact .some ⟨.none, rfl⟩
    | cons _ _ => cases u.ignore <;> exact .some ⟨.none, rfl⟩

/-- Tables that agree warn about the same keys. -/
theorem noted_of_beq (h : (t == u) = true) : t.noted = u.noted := by
  have hdevices := devices_of_beq h
  obtain ⟨hignore, -, -, -, -, hunknown⟩ := beq_iff.1 h
  rw [noted_eq, noted_eq, hignore, KeyMap.keys_of_beq hunknown]
  generalize t.devices = ds at hdevices
  generalize u.devices = ds' at hdevices
  cases hdevices with
  | nil => rfl
  | cons hd hds =>
    cases hds with
    | nil => cases u.ignore <;> simp only [hd.block, hd.unknown]
    | cons _ _ => rfl

theorem reports_of_beq (h : (t == u) = true) (s : Slot) : t.reports s = u.reports s := by
  unfold reports
  rw [noted_of_beq h, elim_eq_of_rel (wanted_of_beq h s) [] fun _ _ hvw => hvw.findings]

end SlotTable

namespace BusTables

variable {t u : BusTables}

theorem tableOf_of_beq (h : (t == u) = true) (s : Slot) :
    Option.Rel (fun a b => (a == b) = true) (t.tableOf s) (u.tableOf s) :=
  KeyMap.get?_of_beq (beq_iff.1 h s.bus) s.name

theorem meaning_of_beq (h : (t == u) = true) (s : Slot) : (t.meaning s == u.meaning s) = true := by
  have hwanted := rel_bind (tableOf_of_beq h s) fun a b hab => SlotTable.wanted_of_beq hab s
  unfold meaning
  exact rel_getD (rel_bind hwanted fun _ _ hvw => hvw.value) rfl

/-- Of each slot the same is reported. -/
theorem reportsOf_of_beq (h : (t == u) = true) (s : Slot) : t.reportsOf s = u.reportsOf s :=
  elim_eq_of_rel (tableOf_of_beq h s) [] fun _ _ hab => SlotTable.reports_of_beq hab s

/-- The keys that name no slot are the same. -/
theorem misplaced_of_beq (h : (t == u) = true) : t.misplaced = u.misplaced := by
  unfold misplaced tables
  rw [List.flatMap_assoc, List.flatMap_assoc]
  refine congrArg Bus.all.flatMap (funext fun bus => ?_)
  rw [List.flatMap_map, List.flatMap_map]
  refine flatMap_eq_of_forall₂ (KeyMap.entries_of_beq (beq_iff.1 h bus)) ?_
  rintro ⟨key, a⟩ ⟨_, b⟩ ⟨rfl, -⟩
  rfl

/-- **Agreeing slot tables are decoded alike.** -/
theorem decode_of_beq (h : (t == u) = true) :
    (t.decode.1.config == u.decode.1.config) = true ∧ t.decode.1.report = u.decode.1.report := by
  constructor
  · rw [Configuration.beq_iff]
    intro s
    rw [get_decode, get_decode]
    exact meaning_of_beq h s
  · have hreports : t.reportsOf = u.reportsOf := funext (reportsOf_of_beq h)
    rw [report_decode, report_decode]
    unfold reports
    rw [misplaced_of_beq h, hreports]

end BusTables

/-! ## Documents -/

/-- **Agreeing documents are decoded alike**: what is reported about them is the same, and the
configurations agree. -/
theorem Document.decode_of_beq {d d' : Document} (h : (d == d') = true) :
    (d.decode.config == d'.decode.config) = true ∧ d.decode.report = d'.decode.report := by
  obtain ⟨hdisk, hdisks⟩ := beq_iff.1 h
  have hsurface : d.surface = d'.surface := by
    unfold surface
    cases hd : d.disk <;> cases hd' : d'.disk <;> rw [hd, hd'] at hdisk <;> first | rfl | cases hdisk
  have hmaps : (d.disks.getD {} == d'.disks.getD {}) = true := by
    cases hd : d.disks <;> cases hd' : d'.disks <;> rw [hd, hd'] at hdisks
    case none.none => decide
    case some.some => exact hdisks
    all_goals cases hdisks
  unfold decode assign
  rw [hsurface]
  cases d'.surface with
  | list => exact DiskList.decode_of_beq hdisk
  | expanded => exact BusTables.decode_of_beq hmaps

end GuestDisks
