import GuestDisks.Proofs.Decoding

/-!
# Unknown keys are of no account

Entries, slot tables and sub-tables keep the keys that they do not know. Emptying these maps (`bare`) takes
away all that a document says beside what is known.

* A bare document comes to the same configuration: what entries and tables want does not depend on unknown
  keys.
* What is reported about a bare document is what was reported, the warnings about unknown keys apart.
* The warnings about unknown keys can be told from the document alone (`Document.unknownNotes`): one for each
  unknown key of an entry or a table whose slot is known, and one for each unknown key of the one sub-table
  that a table is carried out for.

`Document.unknown_keys_only_noted` says this of every document.
-/

namespace GuestDisks

open Assignment Data

/-! ## Documents without unknown keys -/

/-- A map with all values changed, each under its own key. -/
def Data.KeyMap.mapValues {α : Type} (f : α → α) (m : KeyMap α) : KeyMap α where
  entries := m.entries.map fun e => (e.1, f e.2)
  ascending := List.pairwise_map.2 m.ascending

/-- A changed map has the changed value under each key. -/
theorem Data.KeyMap.get?_mapValues {α : Type} (f : α → α) (m : KeyMap α) (key : String) :
    (m.mapValues f).get? key = (m.get? key).map f := by
  ext b
  simp only [get?_eq_some_iff, Option.map_eq_some_iff, mapValues, List.mem_map, Prod.mk.injEq,
    Prod.exists]
  constructor
  · rintro ⟨k, a, h, rfl, rfl⟩
    exact ⟨a, h, rfl⟩
  · rintro ⟨a, h, rfl⟩
    exact ⟨key, a, h, rfl, rfl⟩

/-- An entry without the keys that it does not know. -/
def Entry.bare (e : Entry) : Entry := { e with unknown := {} }

/-- A slot table without the keys that it and its sub-tables do not know. -/
def SlotTable.bare (t : SlotTable) : SlotTable :=
  { t with
    disk := t.disk.map fun b => { b with unknown := {} }
    passthrough := t.passthrough.map fun b => { b with unknown := {} }
    cdrom := t.cdrom.map fun b => { b with unknown := {} }
    cloudInit := t.cloudInit.map fun b => { b with unknown := {} }
    unknown := {} }

/-- Slot tables without unknown keys, under the keys that they had. -/
def BusTables.bare (t : BusTables) : BusTables := .ofBuses fun bus => (t.onBus bus).mapValues (·.bare)

/-- A document without unknown keys. -/
def Document.bare (d : Document) : Document where
  disk := d.disk.map (·.bare)
  disks := d.disks.map (·.bare)

/-! ## Warnings about unknown keys -/

/-- Whether a diagnostic is a warning about an unknown key. -/
def Diagnostic.isUnknownKey (d : Diagnostic) : Bool :=
  match d.finding with
  | .warning (.unknownField _) => true
  | _ => false

/-- The warnings about unknown keys at a slot, one for each. -/
def Slot.unknownNotes (s : Slot) (keys : List String) : Report :=
  keys.map fun key => ⟨s.name, .warning (.unknownField key)⟩

/-- The warnings about the unknown keys of an entry: none, unless its slot is known. -/
def Entry.unknownNotes (e : Entry) : Report :=
  match Slot.ofName e.slot with
  | .ok s => s.unknownNotes e.unknown.keys
  | .error _ => []

/-- The warnings about the unknown keys in the table of a slot, if it has one. -/
def BusTables.unknownNotesOf (t : BusTables) (s : Slot) : Report :=
  (t.tableOf s).elim [] fun table => s.unknownNotes table.noted

/-- The warnings about the unknown keys of a document, on the surface that it uses. -/
def Document.unknownNotes (d : Document) : Report :=
  match d.surface with
  | .list => d.disk.flatMap (·.unknownNotes)
  | .expanded => Slot.all.flatMap (d.disks.getD {}).unknownNotesOf

namespace Report

variable {place : String} {fs : List Finding}

/-- A part of a report in which there is no warning about an unknown key. -/
def Knows (r : Report) : Prop := ∀ d ∈ r, d.isUnknownKey = false

/-- What is found about a device is no warning about an unknown key. -/
theorem knows_ofFindings (h : ∀ f ∈ fs, Finding.IsOfDevice f) : Knows (Report.ofFindings place fs) := by
  intro d hd
  obtain ⟨f, hf, rfl⟩ := List.mem_map.1 hd
  have hdevice := h f hf
  match f with
  | .error p => rfl
  | .warning (.fieldIgnored _ _) => rfl
  | .warning (.unsupportedOnBus _ _) => rfl
  | .warning (.unknownField _) => exact hdevice.elim

theorem knows_error (place : String) (p : Problem) : Knows (Report.ofFindings place [.error p]) := by
  intro d hd
  obtain rfl := List.mem_singleton.1 hd
  rfl

/-- Such a part is kept whole where these warnings are left out. -/
theorem Knows.filter {r : Report} (h : r.Knows) :
    r.filter (·.isUnknownKey) = [] ∧ r.filter (!·.isUnknownKey) = r := by
  constructor
  · rw [List.filter_eq_nil_iff]
    intro d hd
    rw [h d hd]
    exact Bool.false_ne_true
  · rw [List.filter_eq_self]
    intro d hd
    rw [h d hd]
    rfl

/-- Warnings about unknown keys are all left out. -/
theorem filter_unknownNotes (s : Slot) (keys : List String) :
    (s.unknownNotes keys).filter (·.isUnknownKey) = s.unknownNotes keys ∧
      (s.unknownNotes keys).filter (!·.isUnknownKey) = [] := by
  have hall : ∀ d ∈ s.unknownNotes keys, d.isUnknownKey = true := by
    intro d hd
    obtain ⟨key, -, rfl⟩ := List.mem_map.1 hd
    rfl
  constructor
  · exact List.filter_eq_self.2 hall
  · rw [List.filter_eq_nil_iff]
    intro d hd
    rw [hall d hd]
    exact Bool.false_ne_true

/-- What is reported at a slot is the warnings about unknown keys and then what does not depend on them. -/
theorem filter_mention {s : Slot} (keys : List String) (h : Knows (Report.ofFindings s.name fs)) :
    (Report.ofFindings s.name (keys.map (fun key => .warning (.unknownField key)) ++ fs)).filter
        (·.isUnknownKey) = s.unknownNotes keys ∧
      (Report.ofFindings s.name (keys.map (fun key => .warning (.unknownField key)) ++ fs)).filter
        (!·.isUnknownKey) = Report.ofFindings s.name fs := by
  have hsplit : Report.ofFindings s.name (keys.map (fun key => .warning (.unknownField key)) ++ fs) =
      s.unknownNotes keys ++ Report.ofFindings s.name fs := by
    unfold ofFindings Slot.unknownNotes
    rw [List.map_append, List.map_map]
    rfl
  obtain ⟨hnotes, hrest⟩ := filter_unknownNotes s keys
  rw [hsplit, List.filter_append, List.filter_append, hnotes, hrest, h.filter.1, h.filter.2]
  exact ⟨List.append_nil _, List.nil_append _⟩

end Report

/-! ## Lists -/

namespace Entry

theorem wanted_bare (e : Entry) (s : Slot) : e.bare.wanted s = e.wanted s := rfl

/-- **An entry reports its unknown keys and then what it reports without them**, also if it is rejected or
its slot is taken. -/
theorem filter_reports (before : List Entry) (position : Nat) (e : Entry) :
    (e.reports before position).filter (·.isUnknownKey) = e.unknownNotes ∧
      (e.reports before position).filter (!·.isUnknownKey) =
        e.bare.reports (before.map (·.bare)) position := by
  -- whether the slot is taken depends on the names before, which bare entries keep
  have hbefore : ∀ s, (before.map (·.bare)).any (·.names s) = before.any (·.names s) := by
    intro s
    rw [List.any_map]
    rfl
  have hslot : e.bare.slot = e.slot := rfl
  have hnone : e.bare.unknown.keys = [] := rfl
  unfold reports unknownNotes
  rw [hslot]
  cases Slot.ofName e.slot with
  | error fault => exact ⟨rfl, rfl⟩
  | ok s =>
    have hknows : Report.Knows (Report.ofFindings s.name
        (if before.any (·.names s) then [.error (.duplicateSlot s.name)] else (e.wanted s).findings)) := by
      split
      · exact Report.knows_error _ _
      · exact Report.knows_ofFindings (lawful_wanted s e).reports
    simp only [hbefore, hnone, List.map_nil, List.nil_append, wanted_bare]
    exact Report.filter_mention e.unknown.keys hknows

end Entry

namespace DiskList

/-- A list without unknown keys means the same for each slot. -/
theorem meaning_bare (es : List Entry) (s : Slot) : meaning (es.map (·.bare)) s = meaning es s := by
  have hnames : (fun e : Entry => e.names s) ∘ Entry.bare = fun e => e.names s := rfl
  unfold meaning
  rw [List.find?_map, hnames, Option.bind_map]
  rfl

/-- A list reports its unknown keys beside what it reports without them. -/
theorem filter_reports (es : List Entry) :
    (reports es).filter (·.isUnknownKey) = es.flatMap (·.unknownNotes) ∧
      (reports es).filter (!·.isUnknownKey) = reports (es.map (·.bare)) := by
  unfold reports
  rw [List.filter_flatMap, List.filter_flatMap, List.zipIdx_map, List.flatMap_map]
  constructor
  · simp only [(Entry.filter_reports _ _ _).1]
    -- the position of an entry does not matter for its unknown keys
    have hentries : es = (es.zipIdx).map (·.1) := (List.zipIdx_map_fst 0 es).symm
    conv_rhs => rw [hentries, List.flatMap_map]
  · simp only [(Entry.filter_reports _ _ _).2, List.map_take]
    rfl

/-- A list without unknown keys is read to the same configuration, with the same report apart from them. -/
theorem decode_bare (es : List Entry) :
    (decode (es.map (·.bare))).1.config = (decode es).1.config ∧
      (decode (es.map (·.bare))).1.report = (decode es).1.report.filter (!·.isUnknownKey) ∧
      (decode es).1.report.filter (·.isUnknownKey) = es.flatMap (·.unknownNotes) := by
  refine ⟨Configuration.ext_get fun s => ?_, ?_, ?_⟩
  · rw [get_decode, get_decode, meaning_bare]
  · rw [report_decode, report_decode, (filter_reports es).2]
  · rw [report_decode, (filter_reports es).1]

end DiskList

/-! ## Slot tables -/

namespace SlotTable

/-- The devices that a bare table asks for are those that the table asks for. -/
theorem devices_bare (t : SlotTable) :
    t.bare.devices = t.devices.map fun d => { d with unknown := {} } := by
  unfold devices bare
  cases t.disk <;> cases t.passthrough <;> cases t.cdrom <;> cases t.cloudInit <;> rfl

/-- A table without unknown keys wants the same of its slot. -/
theorem wanted_bare (t : SlotTable) (s : Slot) : t.bare.wanted s = t.wanted s := by
  have hignore : t.bare.ignore = t.ignore := rfl
  rw [wanted_eq, wanted_eq, devices_bare, hignore]
  rcases t.devices with _ | ⟨d, _ | ⟨d', ds⟩⟩ <;> cases t.ignore <;> rfl

/-- A table without unknown keys warns about none. -/
theorem noted_bare (t : SlotTable) : t.bare.noted = [] := by
  have hignore : t.bare.ignore = t.ignore := rfl
  rw [noted_eq, devices_bare, hignore]
  rcases t.devices with _ | ⟨d, _ | ⟨d', ds⟩⟩ <;> cases t.ignore <;> rfl

/-- **A table reports its unknown keys and then what it reports without them.** -/
theorem filter_reports (s : Slot) (t : SlotTable) :
    (t.reports s).filter (·.isUnknownKey) = s.unknownNotes t.noted ∧
      (t.reports s).filter (!·.isUnknownKey) = t.bare.reports s := by
  -- a table asks for nothing, for one device, or for several, and only one device is built
  have hknows : Report.Knows (Report.ofFindings s.name ((t.wanted s).elim [] (·.findings))) := by
    rw [wanted_eq]
    rcases t.devices with _ | ⟨d, _ | ⟨d', ds⟩⟩
    · cases t.ignore <;> exact nofun
    · cases t.ignore
      · exact Report.knows_ofFindings (Request.build_lawful _).reports
      · exact Report.knows_error _ _
    · cases t.ignore <;> exact Report.knows_error _ _
  unfold reports
  rw [noted_bare, wanted_bare]
  exact Report.filter_mention t.noted hknows

end SlotTable

namespace BusTables

theorem onBus_bare (t : BusTables) (bus : Bus) : t.bare.onBus bus = (t.onBus bus).mapValues (·.bare) := by
  cases bus <;> rfl

/-- A slot keeps its table, less the unknown keys. -/
theorem tableOf_bare (t : BusTables) (s : Slot) : t.bare.tableOf s = (t.tableOf s).map (·.bare) := by
  unfold tableOf
  rw [onBus_bare]
  exact KeyMap.get?_mapValues ..

theorem meaning_bare (t : BusTables) (s : Slot) : t.bare.meaning s = t.meaning s := by
  unfold meaning
  rw [tableOf_bare]
  cases t.tableOf s with
  | none => rfl
  | some table => simp only [Option.map_some, Option.bind_some, SlotTable.wanted_bare]

/-- The keys stay where they are, so those without a slot do. -/
theorem misplaced_bare (t : BusTables) : t.bare.misplaced = t.misplaced := by
  have htables : t.bare.tables = t.tables.map fun e => (e.1, e.2.1, e.2.2.bare) := by
    unfold tables
    rw [List.map_flatMap]
    simp only [onBus_bare, KeyMap.mapValues, List.map_map]
    rfl
  unfold misplaced
  rw [htables, List.flatMap_map]

/-- Misplaced keys are not warned about as unknown ones. -/
theorem filter_misplaced (t : BusTables) :
    t.misplaced.filter (·.isUnknownKey) = [] ∧ t.misplaced.filter (!·.isUnknownKey) = t.misplaced := by
  refine Report.Knows.filter fun d hd => ?_
  obtain ⟨e, -, hd⟩ := List.mem_flatMap.1 hd
  split at hd
  · cases hd
  · obtain rfl := List.mem_singleton.1 hd
    rfl

/-- Each slot is reported by the unknown keys in its table, and by the rest as without them. -/
theorem filter_reportsOf (t : BusTables) (s : Slot) :
    (t.reportsOf s).filter (·.isUnknownKey) = t.unknownNotesOf s ∧
      (t.reportsOf s).filter (!·.isUnknownKey) = t.bare.reportsOf s := by
  unfold reportsOf unknownNotesOf
  rw [tableOf_bare]
  cases t.tableOf s with
  | none => exact ⟨rfl, rfl⟩
  | some table => exact table.filter_reports s

theorem filter_reports (t : BusTables) :
    t.reports.filter (·.isUnknownKey) = Slot.all.flatMap t.unknownNotesOf ∧
      t.reports.filter (!·.isUnknownKey) = t.bare.reports := by
  have hnotes : (fun s => (t.reportsOf s).filter (·.isUnknownKey)) = t.unknownNotesOf :=
    funext fun s => (t.filter_reportsOf s).1
  have hrest : (fun s => (t.reportsOf s).filter (!·.isUnknownKey)) = t.bare.reportsOf :=
    funext fun s => (t.filter_reportsOf s).2
  unfold reports
  rw [List.filter_append, List.filter_append, List.filter_flatMap, List.filter_flatMap, misplaced_bare,
    t.filter_misplaced.1, t.filter_misplaced.2, hnotes, hrest]
  exact ⟨List.nil_append _, rfl⟩

/-- Tables without unknown keys are read to the same configuration, with the same report apart from them. -/
theorem decode_bare (t : BusTables) :
    t.bare.decode.1.config = t.decode.1.config ∧
      t.bare.decode.1.report = t.decode.1.report.filter (!·.isUnknownKey) ∧
      t.decode.1.report.filter (·.isUnknownKey) = Slot.all.flatMap t.unknownNotesOf := by
  refine ⟨Configuration.ext_get fun s => ?_, ?_, ?_⟩
  · rw [get_decode, get_decode, meaning_bare]
  · rw [report_decode, report_decode, t.filter_reports.2]
  · rw [report_decode, t.filter_reports.1]

end BusTables

/-! ## Documents -/

namespace Document

/-- Unknown keys do not choose the surface. -/
theorem surface_bare (d : Document) : d.bare.surface = d.surface := by
  unfold surface bare
  rw [List.isEmpty_map]

/-- **Unknown keys are noted and have no other effect.** A document and the document without its unknown
keys come to the same configuration on the same surface. The report without unknown keys is that with them,
less the warnings about them; and these are one for each unknown key of an entry whose slot is known, or of
a slot table and of the one sub-table that it is carried out for, and no others. -/
theorem unknown_keys_only_noted (d : Document) :
    d.bare.decode.surface = d.decode.surface ∧
    d.bare.decode.config = d.decode.config ∧
    d.bare.decode.report = d.decode.report.filter (!·.isUnknownKey) ∧
    d.decode.report.filter (·.isUnknownKey) = d.unknownNotes := by
  have hsurface := d.surface_bare
  refine ⟨hsurface, ?_⟩
  unfold decode assign unknownNotes
  rw [hsurface]
  cases d.surface with
  | list => exact DiskList.decode_bare d.disk
  | expanded =>
    have hdisks : d.bare.disks.getD {} = (d.disks.getD {}).bare := by
      unfold bare
      cases d.disks <;> rfl
    simp only [hdisks]
    exact BusTables.decode_bare _

end Document

end GuestDisks
