import GuestDisks.Proofs.ListMeaning

/-!
# Histories of an assignment

Of the steps carried out so far, an assignment that began empty remembers which slots they **named**
(`mem_claimed_run`). That decides all that a further step can do:

* to a slot that was not named before, it gives what it can (`get_run_append_cons`), and no device is
  ever put in the place of another,
* of a slot that was, it reports that the slot is taken, and nothing else (`gained_of_named`).

`first_claim_settles` says both for histories of any length.
-/

namespace GuestDisks.Assignment

/-- What a step gives the slot that it names: the device asked for, if it can be built, or the mark
that the slot is to stay as it is. -/
def Step.given : Step → Variant
  | .add r => r.build.value.getD .delete
  | .leaveUnchanged _ => .unchanged
  | .reject _ _ | .reportError _ _ | .reportWarning _ _ => .delete

/-- What a step adds to the report. -/
def gained (a : Assignment) (st : Step) : Report := (a.step st).1.report.drop a.report.length

/-- What each of the steps that name a slot adds to the report, in order. -/
def gains (s : Slot) : Assignment → List Step → List Report
  | _, [] => []
  | a, st :: sts =>
    if st.names s then a.gained st :: gains s (a.step st).1 sts else gains s (a.step st).1 sts

variable {a : Assignment} {st : Step} {s : Slot} {before : List Step}

/-! ## The slots that were named -/

/-- A run claims the slots that its steps name. -/
theorem mem_claimed_run (a : Assignment) (steps : List Step) (s : Slot) :
    s ∈ (a.run steps).claimed ↔ s ∈ a.claimed ∨ steps.any (·.names s) = true := by
  induction steps generalizing a with
  | nil => simp [run]
  | cons st steps ih =>
    rw [run_cons, ih, mem_claimed_step, List.any_cons, Bool.or_eq_true, or_assoc]

/-- The slots claimed after a history are those that it named. -/
theorem mem_claimed_run_empty (steps : List Step) (s : Slot) :
    s ∈ (empty.run steps).claimed ↔ steps.any (·.names s) = true := by
  rw [mem_claimed_run]
  simp [empty]

/-- A step names a slot when it claims it. -/
theorem Step.names_eq_true_iff : st.names s = true ↔ ∃ w, st.claim? = some (s, w) := by
  unfold names
  rw [claimOn_eq]
  rcases st.claim? with _ | ⟨t, w⟩
  · simp
  · by_cases h : t = s <;> simp [h]

/-- A step gives its slot what its check comes to, or deletes it. -/
theorem Step.given_eq {w : Checked Variant} (h : st.claim? = some (s, w)) :
    st.given = w.value.getD .delete := by
  cases st with
  | add r => cases h; rfl
  | leaveUnchanged t => cases h; rfl
  | reject t p => cases h; rfl
  | reportError place p => cases h
  | reportWarning place n => cases h

/-! ## What a step answers -/

/-- Adding answers whether the slot was free and the device could be built. -/
theorem snd_add (a : Assignment) (r : Request) :
    (a.add r).2 = (!decide (r.slot ∈ a.claimed) && r.build.value.isSome) := by
  unfold add claim
  by_cases h : r.slot ∈ a.claimed
  · simp [h]
  · cases hv : r.build.value <;> simp [h, hv]

/-- Leaving a slot as it is answers whether the slot was free. -/
theorem snd_leaveUnchanged (a : Assignment) (s : Slot) :
    (a.leaveUnchanged s).2 = !decide (s ∈ a.claimed) := by
  unfold leaveUnchanged claim
  by_cases h : s ∈ a.claimed <;> simp [h]

/-- A step that does not put anything into a slot leaves all slots as they are. -/
theorem config_step_of_not (h : (a.step st).2 = false) : (a.step st).1.config = a.config := by
  cases st with
  | add r =>
    unfold step add claim at *
    by_cases hc : r.slot ∈ a.claimed
    · simp [hc, note]
    · cases hv : r.build.value <;> simp [hc, hv, note] at h ⊢
  | leaveUnchanged t =>
    unfold step leaveUnchanged claim at *
    by_cases hc : t ∈ a.claimed
    · simp [hc, note]
    · simp [hc] at h
  | reject t p =>
    unfold step reject claim
    by_cases hc : t ∈ a.claimed <;> simp [hc, note]
  | reportError place p => rfl
  | reportWarning place n => rfl

/-! ## What slots hold -/

/-- A slot that no step names is deleted. -/
theorem get_run_of_not_named {steps : List Step} (h : steps.any (·.names s) = false) :
    (empty.run steps).config.get s = .delete := by
  rw [any_names, Option.isSome_eq_false_iff, Option.isNone_iff_eq_none] at h
  rw [get_run_empty, outcome, h]; rfl

/-- **The first step that names a slot settles it**, whatever steps follow. -/
theorem get_run_append_cons (hb : before.any (·.names s) = false) (hst : st.names s = true)
    (after : List Step) : (empty.run (before ++ st :: after)).config.get s = st.given := by
  obtain ⟨w, hw⟩ := Step.names_eq_true_iff.1 hst
  have hon : st.claimOn s = some w := by rw [claimOn_eq, hw]; exact if_pos rfl
  rw [any_names, Option.isSome_eq_false_iff, Option.isNone_iff_eq_none] at hb
  rw [get_run_empty, outcome, List.findSome?_append, hb, List.findSome?_cons, hon, Step.given_eq hw]
  rfl

/-- A step leaves the slots alone that it does not name. -/
theorem get_step_of_ne {t : Slot} (hst : st.names s = true) (h : t ≠ s) :
    (a.step st).1.config.get t = a.config.get t := by
  obtain ⟨w, hw⟩ := Step.names_eq_true_iff.1 hst
  have hon : st.claimOn t = none := by rw [claimOn_eq, hw]; exact if_neg h.symm
  rw [get_step, hon]
  exact ite_self _

/-! ## What is reported -/

theorem report_step_run (before : List Step) (st : Step) :
    ((empty.run before).step st).1.report = (empty.run before).report ++ st.reports before := by
  have h := report_run_empty (before ++ [st])
  rw [run_append, reportsAfter_append, ← report_run_empty before, List.nil_append] at h
  simpa [run, reportsAfter] using h

/-- What a step adds to the report can be told from the steps before it. -/
theorem gained_run (before : List Step) (st : Step) :
    (empty.run before).gained st = st.reports before := by
  unfold gained
  rw [report_step_run, List.drop_left]

/-- A step that claims a slot reports that it is taken, or what its check found. -/
theorem reports_of_claim {w : Checked Variant} (h : st.claim? = some (s, w)) :
    st.reports before =
      .ofFindings s.name (if before.any (·.names s) then [.error (.duplicateSlot s.name)] else w.findings) := by
  unfold Step.reports
  rw [h]

/-- A step adds to the report at one place, which is the slot that it names, if it names one. -/
theorem exists_report_step (before : List Step) (st : Step) :
    ∃ place fs, ((empty.run before).step st).1.report = (empty.run before).report ++ .ofFindings place fs ∧
      ∀ s, st.names s = true → place = s.name := by
  rw [report_step_run]
  cases hc : st.claim? with
  | some c =>
    refine ⟨c.1.name, _, by rw [reports_of_claim hc], fun s hs => ?_⟩
    obtain ⟨w, hw⟩ := Step.names_eq_true_iff.1 hs
    rw [hc] at hw; cases hw; rfl
  | none =>
    have hnone : ∀ s place, st.names s = true → place = s.name := by
      intro s place hs
      obtain ⟨w, hw⟩ := Step.names_eq_true_iff.1 hs
      rw [hc] at hw; cases hw
    unfold Step.reports
    rw [hc]
    cases st with
    | reportError place p => exact ⟨place, _, rfl, fun s => hnone s place⟩
    | reportWarning place n => exact ⟨place, _, rfl, fun s => hnone s place⟩
    | add r => cases hc
    | leaveUnchanged t => cases hc
    | reject t p => cases hc

/-- **Of a slot named before, a step reports that it is taken**, and nothing else. -/
theorem gained_of_named (hst : st.names s = true) (hb : before.any (·.names s) = true) :
    (empty.run before).gained st = [s.taken] := by
  obtain ⟨w, hw⟩ := Step.names_eq_true_iff.1 hst
  rw [gained_run, reports_of_claim hw, if_pos hb]; rfl

/-- A step finds by itself that a slot is taken only if it was told so. -/
theorem findings_eq_taken_iff {w : Checked Variant} (h : st.claim? = some (s, w)) :
    w.findings = [.error (.duplicateSlot s.name)] ↔ st = .reject s (.duplicateSlot s.name) := by
  cases st with
  | add r =>
    cases h
    simp only [reduceCtorEq, iff_false]
    intro hf
    exact (Request.build_lawful r).reports (.error (.duplicateSlot r.slot.name)) (by rw [hf]; simp)
  | leaveUnchanged t => cases h; simp
  | reject t p => cases h; simp [Checked.problem]
  | reportError place p => cases h
  | reportWarning place n => cases h

/-- A step reports nothing but a taken slot if an earlier one named it, or if it says so itself. -/
theorem gained_eq_taken_iff (hst : st.names s = true) :
    (empty.run before).gained st = [s.taken] ↔
      before.any (·.names s) = true ∨ st = .reject s (.duplicateSlot s.name) := by
  by_cases hb : before.any (·.names s) = true
  · simp only [gained_of_named hst hb, hb, true_or]
  · obtain ⟨w, hw⟩ := Step.names_eq_true_iff.1 hst
    have hinj : Function.Injective (Report.ofFindings s.name) :=
      List.map_injective_iff.2 fun f g h => (Diagnostic.mk.inj h).2
    have htaken : [s.taken] = Report.ofFindings s.name [.error (.duplicateSlot s.name)] := rfl
    rw [gained_run, reports_of_claim hw, if_neg hb, htaken, hinj.eq_iff, findings_eq_taken_iff hw]
    simp [hb]

theorem gains_cons (s : Slot) (before : List Step) (st : Step) (steps : List Step) :
    gains s (empty.run before) (st :: steps) =
      (if st.names s then [(empty.run before).gained st] else []) ++
        gains s (empty.run (before ++ [st])) steps := by
  have hrun : empty.run (before ++ [st]) = ((empty.run before).step st).1 := by rw [run_append]; rfl
  rw [gains, hrun]
  split <;> rfl

theorem gains_of_named (hb : before.any (·.names s) = true) (steps : List Step) :
    gains s (empty.run before) steps = .replicate (steps.countP (·.names s)) [s.taken] := by
  induction steps generalizing before with
  | nil => rfl
  | cons st steps ih =>
    have hb' : (before ++ [st]).any (·.names s) = true := by rw [List.any_append, hb, Bool.true_or]
    rw [gains_cons, ih hb', List.countP_cons]
    by_cases hst : st.names s = true
    · rw [if_pos hst, if_pos hst, gained_of_named hst hb, List.replicate_succ]; rfl
    · rw [if_neg hst, if_neg hst]; rfl

/-- **Each step that names a slot, but the first, reports that it is taken**, and nothing else. -/
theorem tail_gains (hb : before.any (·.names s) = false) (steps : List Step) :
    (gains s (empty.run before) steps).tail =
      .replicate (steps.countP (·.names s) - 1) [s.taken] := by
  induction steps generalizing before with
  | nil => rfl
  | cons st steps ih =>
    rw [gains_cons, List.countP_cons]
    by_cases hst : st.names s = true
    · -- this is the first step that names the slot, and all that follow come too late
      have hb' : (before ++ [st]).any (·.names s) = true := by simp [hst]
      rw [if_pos hst, if_pos hst, gains_of_named hb', Nat.add_sub_cancel]; rfl
    · have hb' : (before ++ [st]).any (·.names s) = false := by
        simpa [hst] using hb
      rw [if_neg hst, if_neg hst, List.nil_append, ih hb', Nat.add_zero]

/-- **Histories.** Where a device is added, the slot held none. A slot that no step named is deleted;
the first step that names it settles what it holds for good. A step leaves the slots alone that it does
not name and adds to the report, and only about the slot that it names. It says whether it put something
into the slot, and otherwise changes none. Of the steps that name a slot, all but the first report that
it is taken and nothing else; the first does so only if it was told to report just that. -/
theorem first_claim_settles :
    (∀ before r, ((empty.run before).add r).2 = true →
      ((empty.run before).config.get r.slot).isEmpty = true) ∧
    (∀ steps s, steps.any (·.names s) = false → (empty.run steps).config.get s = .delete) ∧
    (∀ before st after s, before.any (·.names s) = false → st.names s = true →
      (empty.run (before ++ st :: after)).config.get s = st.given) ∧
    (∀ before st s, st.names s = true → ∀ t, t ≠ s →
      ((empty.run before).step st).1.config.get t = (empty.run before).config.get t) ∧
    (∀ before st, ∃ place fs, ((empty.run before).step st).1.report =
      (empty.run before).report ++ .ofFindings place fs ∧ ∀ s, st.names s = true → place = s.name) ∧
    (∀ before r, ((empty.run before).add r).2 =
      (!before.any (·.names r.slot) && r.build.value.isSome)) ∧
    (∀ before s, ((empty.run before).leaveUnchanged s).2 = !before.any (·.names s)) ∧
    (∀ before st, ((empty.run before).step st).2 = false →
      ((empty.run before).step st).1.config = (empty.run before).config) ∧
    (∀ before st s, st.names s = true → ((empty.run before).gained st = [s.taken] ↔
      before.any (·.names s) = true ∨ st = .reject s (.duplicateSlot s.name))) ∧
    ∀ steps s, (gains s empty steps).tail =
      .replicate (steps.countP (·.names s) - 1) [s.taken] := by
  have hclaimed : ∀ before s, decide (s ∈ (empty.run before).claimed) = before.any (·.names s) := by
    intro before s
    rw [Bool.eq_iff_iff, decide_eq_true_iff, mem_claimed_run_empty]
  have hadd : ∀ before r, ((empty.run before).add r).2 =
      (!before.any (·.names r.slot) && r.build.value.isSome) := by
    intro before r
    rw [snd_add, hclaimed]
  refine ⟨fun before r h => ?nothing, fun steps s h => get_run_of_not_named h,
    fun before st after s hb hst => get_run_append_cons hb hst after,
    fun before st s hst t ht => get_step_of_ne hst ht, exists_report_step, hadd,
    fun before s => ?free, fun before st h => config_step_of_not h,
    fun before st s hst => gained_eq_taken_iff hst, fun steps s => ?taken⟩
  case nothing =>
    rw [hadd, Bool.and_eq_true, Bool.not_eq_true'] at h
    rw [get_run_of_not_named h.1]; rfl
  case free => rw [snd_leaveUnchanged, hclaimed]
  case taken =>
    have hnone : ([] : List Step).any (·.names s) = false := rfl
    exact tail_gains hnone steps

/-- A drive is added to a free slot, and a later step cannot leave that slot unchanged. -/
theorem first_claim_settles_drive :
    let drive : Slot := ⟨.ide, 2, by decide⟩
    let other : Slot := ⟨.scsi, 0, by decide⟩
    let add : Step := .add ⟨drive, .cdrom, false, {}⟩
    let before : List Step := [.reject other .conflictingBlocks]
    let late : Step := .leaveUnchanged drive
    (before.any (·.names drive) = false ∧ (empty.run before).config.get drive = .delete) ∧
    (((empty.run before).step add).2 = true ∧ ((empty.run before).config.get drive).isEmpty = true) ∧
    (add.names drive = true ∧
      (empty.run (before ++ add :: [late])).config.get drive = .cdrom .none) ∧
    ((add.names drive = true ∧ other ≠ drive) ∧
      ((empty.run before).step add).1.config.get other = (empty.run before).config.get other) ∧
    (((empty.run (before ++ [add])).step late).2 = false ∧
      ((empty.run (before ++ [add])).step late).1.config = (empty.run (before ++ [add])).config) ∧
    (empty.run (before ++ [add])).gained late = [drive.taken] := by
  obtain ⟨hadd, hfree, hfirst, hothers, -, -, -, hsame, htaken, -⟩ := first_claim_settles
  have hempty := hadd [.reject ⟨.scsi, 0, by decide⟩ .conflictingBlocks]
    ⟨⟨.ide, 2, by decide⟩, .cdrom, false, {}⟩ (by decide)
  exact ⟨⟨by decide, hfree _ _ (by decide)⟩, ⟨by decide, hempty⟩,
    ⟨by decide, hfirst _ _ _ _ (by decide) (by decide)⟩,
    ⟨⟨by decide, by decide⟩, hothers _ _ ⟨.ide, 2, by decide⟩ (by decide) _ (by decide)⟩,
    ⟨by decide, hsame _ _ (by decide)⟩, (htaken _ _ _ (by decide)).2 (.inl (by decide))⟩

end GuestDisks.Assignment
