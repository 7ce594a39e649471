import GuestDisks.Document.DiskList
import GuestDisks.Proofs.Runs

/-!
# What a disk list means

Each entry says what it **wants** of its slot and what is to be **reported** about it, given the
entries before it. Reading a list is carrying out the steps of its entries (`assign_eq_run`), so

* a slot holds what the first entry that names it wants, or nothing (`get_decode`),
* the report is what each entry reports, one after another (`report_decode`).
-/

namespace GuestDisks

open Assignment

theorem Assignment.warnUnknown_eq_run (a : Assignment) (s : Slot) (keys : List String) :
    a.warnUnknown s keys = a.run (warnings s keys) := by
  unfold warnUnknown run warnings
  rw [List.foldl_map]; rfl

namespace Entry

/-- Whether an entry names a slot. -/
def names (s : Slot) (e : Entry) : Bool := (Slot.ofName e.slot).toOption = some s

/-- An entry names the slot that its text is the name of. -/
theorem names_eq_true_iff {s : Slot} {e : Entry} : e.names s = true ↔ Slot.ofName e.slot = .ok s := by
  unfold names
  cases Slot.ofName e.slot <;> simp [Except.toOption]

/-- What an entry wants a slot to hold: the device that it describes, if it is of some kind. -/
def wanted (s : Slot) (e : Entry) : Checked Variant :=
  match Kind.ofName e.kind with
  | .error p => .problem p
  | .ok kind => Request.build ⟨s, kind, e.passthrough, e.fields⟩

/-- What is reported about an entry at a position, after the entries before it: unknown keys first,
then either that its slot is taken or what is wrong with the device. -/
def reports (before : List Entry) (position : Nat) (e : Entry) : Report :=
  match Slot.ofName e.slot with
  | .error fault => .ofFindings (place position) [.error (.unknownSlot e.slot fault)]
  | .ok s =>
    .ofFindings s.name (e.unknown.keys.map (fun key => .warning (.unknownField key)) ++
      if before.any (·.names s) then [.error (.duplicateSlot s.name)] else (e.wanted s).findings)

/-- The claim that an entry makes on its slot. -/
def claim (s : Slot) (e : Entry) : Step :=
  match Kind.ofName e.kind with
  | .error p => .reject s p
  | .ok kind => .add ⟨s, kind, e.passthrough, e.fields⟩

/-- The steps that an entry at a position asks for. -/
def steps (position : Nat) (e : Entry) : List Step :=
  match Slot.ofName e.slot with
  | .error fault => [.reportError (place position) (.unknownSlot e.slot fault)]
  | .ok s => warnings s e.unknown.keys ++ (some (e.claim s)).toList

/-- Reading an entry is carrying out its steps. -/
theorem assign_eq_run (a : Assignment) (position : Nat) (e : Entry) :
    (e.assign a position).1 = a.run (e.steps position) := by
  unfold assign steps claim
  cases Slot.ofName e.slot with
  | error fault => rfl
  | ok s =>
    cases Kind.ofName e.kind <;> simp only [run_append, ← warnUnknown_eq_run] <;> rfl

theorem claim?_claim (s : Slot) (e : Entry) :
    (some (e.claim s)).map (·.claim?) = (some (e.wanted s)).map fun w => some (s, w) := by
  unfold claim wanted
  cases Kind.ofName e.kind <;> rfl

/-- An entry claims the slot that it names for what it wants. -/
theorem findSome?_steps (position : Nat) (e : Entry) (t : Slot) :
    (e.steps position).findSome? (·.claimOn t) = if e.names t then some (e.wanted t) else none := by
  unfold steps names
  cases Slot.ofName e.slot with
  | error fault => rfl
  | ok s =>
    simp only [findSome?_mention (claim?_claim s e)]
    by_cases h : s = t
    · subst h; simp [Except.toOption]
    · simp [Except.toOption, h]

theorem any_names_steps (position : Nat) (e : Entry) (t : Slot) :
    (e.steps position).any (·.names t) = e.names t := by
  rw [any_names, findSome?_steps]
  cases e.names t <;> rfl

/-- The steps of an entry report what there is to report about it. -/
theorem reportsAfter_steps {done : List Step} {before : List Entry}
    (hb : ∀ s, done.any (·.names s) = before.any (·.names s)) (position : Nat) (e : Entry) :
    reportsAfter done (e.steps position) = e.reports before position := by
  unfold steps reports
  cases Slot.ofName e.slot with
  | error fault => simp [reportsAfter, Step.reports, Step.claim?, Step.notes]
  | ok s => simp only [reportsAfter_mention (claim?_claim s e), hb, Option.elim_some]

end Entry

namespace DiskList

/-- The steps of a list of entries, the first at a given position. -/
def steps (position : Nat) (es : List Entry) : List Step :=
  (es.zipIdx position).flatMap fun e => e.1.steps e.2

theorem steps_cons (position : Nat) (e : Entry) (es : List Entry) :
    steps position (e :: es) = e.steps position ++ steps (position + 1) es := by
  unfold steps; rw [List.zipIdx_cons, List.flatMap_cons]

/-- Where the entry of a slot asks for one request or is absent, a list by slots adds these requests. -/
theorem steps_filterMap {entry : Slot → Option Entry} {request : Slot → Option Request}
    (h : ∀ position s, (entry s).map (·.steps position) = (request s).map fun r => [.add r])
    (slots : List Slot) (position : Nat) :
    steps position (slots.filterMap entry) = slots.filterMap fun s => (request s).map .add := by
  induction slots generalizing position with
  | nil => rfl
  | cons s slots ih =>
    have he := h position s
    rw [List.filterMap_cons, List.filterMap_cons]
    cases hr : request s with
    | none =>
      rw [hr, Option.map_none, Option.map_eq_none_iff] at he
      rw [he]
      exact ih position
    | some r =>
      rw [hr, Option.map_some, Option.map_eq_some_iff] at he
      obtain ⟨e, he, hsteps⟩ := he
      rw [he]
      simp only [steps_cons, hsteps, ih]
      rfl

/-- **Reading entries is carrying out their steps.** -/
theorem assign_eq_run (a : Assignment) (position : Nat) (es : List Entry) :
    (assign a position es).1 = a.run (steps position es) := by
  induction es generalizing a position with
  | nil => rfl
  | cons e es ih => rw [steps_cons, run_append, ← Entry.assign_eq_run, ← ih]; rfl

/-- Reading a list is carrying out its steps. -/
theorem decode_eq_run (es : List Entry) : (decode es).1 = Assignment.empty.run (steps 0 es) :=
  assign_eq_run ..

/-- The first claim on a slot is that of the first entry which names it. -/
theorem findSome?_steps (position : Nat) (es : List Entry) (s : Slot) :
    (steps position es).findSome? (·.claimOn s) = (es.find? (·.names s)).map (·.wanted s) := by
  induction es generalizing position with
  | nil => rfl
  | cons e es ih =>
    rw [steps_cons, List.findSome?_append, ih, Entry.findSome?_steps, List.find?_cons]
    cases e.names s <;> rfl

/-- What a list means for a slot: what the first entry that names it wants, if that can be built. -/
def meaning (es : List Entry) (s : Slot) : Variant :=
  ((es.find? (·.names s)).bind fun e => (e.wanted s).value).getD .delete

/-- **A slot holds what the first entry that names it wants.** -/
theorem get_decode (es : List Entry) (s : Slot) : (decode es).1.config.get s = meaning es s := by
  rw [decode_eq_run, get_run_empty, outcome, findSome?_steps, Option.bind_map]; rfl

/-- An entry of no known kind takes its slot all the same. -/
example : meaning [⟨"ide0", "floppy", false, {}, {}⟩, ⟨"ide0", "cdrom", false, {}, {}⟩]
    ⟨.ide, 0, by decide⟩ = .delete := by decide

/-- What is reported about a list: what is reported about each entry, after those before it. -/
def reports (es : List Entry) : Report := es.zipIdx.flatMap fun e => e.1.reports (es.take e.2) e.2

/-- What is reported about entries that come after some others. -/
def reportsFrom (before es : List Entry) : Report :=
  (es.zipIdx before.length).flatMap fun e => e.1.reports ((before ++ es).take e.2) e.2

theorem reportsFrom_cons (before : List Entry) (e : Entry) (es : List Entry) :
    reportsFrom before (e :: es) =
      e.reports before before.length ++ reportsFrom (before ++ [e]) es := by
  unfold reportsFrom
  rw [List.zipIdx_cons, List.flatMap_cons, List.take_left, List.length_append, List.length_singleton,
    List.append_assoc, List.singleton_append]

/-- The steps of entries report what there is to report about the entries, after others. -/
theorem reportsAfter_steps {done : List Step} {before : List Entry}
    (hb : ∀ s, done.any (·.names s) = before.any (·.names s)) (es : List Entry) :
    reportsAfter done (steps before.length es) = reportsFrom before es := by
  induction es generalizing done before with
  | nil => rfl
  | cons e es ih =>
    have hb' : ∀ s, (done ++ e.steps before.length).any (·.names s) = (before ++ [e]).any (·.names s) := by
      intro s
      rw [List.any_append, List.any_append, hb, Entry.any_names_steps, List.any_cons, List.any_nil,
        Bool.or_false]
    have hrest := ih hb'
    rw [List.length_append, List.length_singleton] at hrest
    rw [steps_cons, reportsAfter_append, Entry.reportsAfter_steps hb, hrest, reportsFrom_cons]

/-- **The report of a list is that of its entries, one after another.** -/
theorem report_decode (es : List Entry) : (decode es).1.report = reports es := by
  have hnone : ∀ s, ([] : List Step).any (·.names s) = ([] : List Entry).any (·.names s) :=
    fun _ => rfl
  rw [decode_eq_run, report_run_empty]
  exact reportsAfter_steps hnone es

end DiskList

/-! ## Slots named twice, and entries without a slot -/

theorem Report.filter_ofFindings (place : String) (fs : List Finding) (p : Diagnostic → Bool) :
    (Report.ofFindings place fs).filter p = Report.ofFindings place (fs.filter fun f => p ⟨place, f⟩) := by
  unfold Report.ofFindings
  rw [List.filter_map]; rfl

/-- The report that a slot is taken. -/
def Slot.taken (s : Slot) : Diagnostic := ⟨s.name, .error (.duplicateSlot s.name)⟩

namespace Entry

/-- What an entry wants is there exactly if no error is found, and all that is found concerns its device. -/
theorem lawful_wanted (s : Slot) (e : Entry) : Checked.Lawful Finding.IsOfDevice (e.wanted s) := by
  unfold wanted Kind.ofName
  split
  · rename_i h
    split at h <;> cases h
    exact .problem trivial
  · exact Request.build_lawful _

theorem wanted_ne_unchanged (s : Slot) (e : Entry) : (e.wanted s).value ≠ some .unchanged := by
  unfold wanted
  split
  · exact nofun
  · exact fun h => Request.build_isOf h

/-- What is reported when the slot of an entry cannot be told. -/
def lost (position : Nat) (e : Entry) : Report :=
  match Slot.ofName e.slot with
  | .error fault => [⟨place position, .error (.unknownSlot e.slot fault)⟩]
  | .ok _ => []

/-- Places in a list tell its entries apart. -/
theorem place_injective : Function.Injective place := by
  intro i j h
  unfold place at h
  rw [← String.toList_inj] at h
  simp only [String.toList_append, List.append_cancel_right_eq, List.append_cancel_left_eq,
    Decimal.toList_ofNat] at h
  exact Decimal.digits_injective h

/-- No slot has the name of a position. -/
theorem name_ne_place (s : Slot) (i : Nat) : s.name ≠ place i := by
  intro h
  unfold place at h
  rw [← String.toList_inj, Slot.toList_name, String.toList_append, String.toList_append] at h
  cases hb : s.bus <;> rw [hb] at h <;> simp [Bus.label] at h

/-- What is reported about an entry once its slot is known never calls a slot taken by itself. -/
theorem filter_findings_taken (s t : Slot) (e : Entry) :
    (e.unknown.keys.map (fun key => Finding.warning (.unknownField key)) ++
      (e.wanted t).findings).filter (fun f => f = .error (.duplicateSlot s.name)) = [] := by
  rw [List.filter_eq_nil_iff]
  intro f hf
  rw [decide_eq_true_eq]
  rintro rfl
  rcases List.mem_append.1 hf with h | h
  · obtain ⟨key, -, h⟩ := List.mem_map.1 h
    cases h
  · exact (lawful_wanted t e).reports _ h

/-- An entry reports that a slot is taken if it names the slot and is not the first to do so. -/
theorem filter_taken (before : List Entry) (position : Nat) (e : Entry) (s : Slot) :
    (e.reports before position).filter (fun d => d.finding = .error (.duplicateSlot s.name)) =
      if e.names s = true ∧ before.any (·.names s) = true then [s.taken] else [] := by
  cases hs : Slot.ofName e.slot with
  | error fault => simp [reports, names, hs, Except.toOption, Report.ofFindings]
  | ok t =>
    have hn : e.names s = true ↔ t = s := by rw [names_eq_true_iff, hs, Except.ok.injEq]
    have hf := filter_findings_taken s t e
    rw [List.filter_append, List.append_eq_nil_iff] at hf
    simp only [reports, hs, hn, Report.filter_ofFindings, List.filter_append, hf.1, List.nil_append]
    by_cases hts : t = s
    · subst hts
      cases hb : before.any (·.names t) with
      | true => simp [Report.ofFindings, Slot.taken]
      | false => simp [Report.ofFindings, hf.2]
    · have hne := Slot.name_injective.ne hts
      cases hb : before.any (·.names t) with
      | true => simp [Report.ofFindings, hts, hne]
      | false => simp [Report.ofFindings, hts, hf.2]

/-- The only report at a position is that of an entry there whose slot cannot be told. -/
theorem filter_place (before : List Entry) (position : Nat) (e : Entry) (i : Nat) :
    (e.reports before position).filter (fun d => d.place = place i) =
      if position = i then e.lost i else [] := by
  unfold reports lost
  cases Slot.ofName e.slot with
  | error fault =>
    by_cases h : position = i
    · subst h; simp [Report.ofFindings]
    · have := place_injective.ne h
      simp [Report.ofFindings, h, this]
  | ok s =>
    rw [Report.filter_ofFindings]
    simp [name_ne_place, Report.ofFindings]

end Entry

namespace DiskList

/-- A slot is reported taken once for each entry that names it after the first. -/
theorem filter_taken (before es : List Entry) (s : Slot) :
    (reportsFrom before es).filter (fun d => d.finding = .error (.duplicateSlot s.name)) =
      List.replicate (es.countP (·.names s) - if before.any (·.names s) then 0 else 1) s.taken := by
  induction es generalizing before with
  | nil => rw [List.countP_nil, Nat.zero_sub]; rfl
  | cons e es ih =>
    rw [reportsFrom_cons, List.filter_append, Entry.filter_taken, ih, List.any_append, List.countP_cons]
    -- the one entry not counted is the first that names the slot, here or before
    cases hn : e.names s with
    | false => simp [hn]
    | true =>
      cases hb : before.any (·.names s) with
      | false => simp [hn]
      | true => simp [hn, ← List.replicate_succ]

/-- What is reported at a place in the list is about the entry there, and only if its slot cannot be
told. -/
theorem filter_place (before es : List Entry) (i : Nat) :
    (reportsFrom before es).filter (fun d => d.place = Entry.place i) =
      if i < before.length then [] else (es[i - before.length]?).elim [] (Entry.lost i) := by
  induction es generalizing before with
  | nil => cases decide (i < before.length) <;> simp [reportsFrom]
  | cons e es ih =>
    rw [reportsFrom_cons, List.filter_append, Entry.filter_place, ih, List.length_append,
      List.length_singleton]
    -- position `i` is that of `e`, or one before it, or one among `es`
    by_cases heq : before.length = i
    · subst heq; simp
    · by_cases hlt : i < before.length
      · rw [if_neg heq, if_pos (by omega), if_pos hlt, List.nil_append]
      · obtain ⟨k, rfl⟩ : ∃ k, i = before.length + 1 + k := ⟨i - (before.length + 1), by omega⟩
        have hk : before.length + 1 + k - before.length = k + 1 := by omega
        rw [if_neg heq, if_neg (by omega), if_neg hlt, List.nil_append, hk, List.getElem?_cons_succ,
          Nat.add_sub_cancel_left]

/-- **Reading a list does what the list means.** Every slot holds what the first entry that names it
wants, if that can be built, and is never left unchanged. A slot that several entries name is reported
taken once for each of them but the first. An entry whose slot cannot be told is reported once, at its
position, and nothing else is reported there. The report follows the order of the entries. -/
theorem decode_eq_meaning (es : List Entry) :
    (∀ s, (decode es).1.config.get s = meaning es s) ∧
      (∀ s, (decode es).1.config.get s ≠ .unchanged) ∧
      (∀ s, (decode es).1.report.filter (fun d => d.finding = .error (.duplicateSlot s.name)) =
        List.replicate (es.countP (·.names s) - 1) s.taken) ∧
      (∀ i, (decode es).1.report.filter (fun d => d.place = Entry.place i) =
        (es[i]?).elim [] (Entry.lost i)) ∧
      (decode es).1.report = reports es := by
  refine ⟨get_decode es, fun s => ?unchanged, fun s => ?taken, fun i => ?lost, report_decode es⟩
  case unchanged =>
    rw [get_decode]
    unfold meaning
    cases es.find? (·.names s) with
    | none => exact nofun
    | some e =>
      rw [Option.bind_some]
      have h := e.wanted_ne_unchanged s
      cases hv : (e.wanted s).value with
      | none => exact nofun
      | some v => rw [hv] at h; exact fun hu => h (congrArg some hu)
  case taken => rw [report_decode]; exact filter_taken [] es s
  case lost => rw [report_decode]; exact filter_place [] es i

end DiskList

end GuestDisks
