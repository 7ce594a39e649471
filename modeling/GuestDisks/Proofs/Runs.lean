import GuestDisks.Assignment
import GuestDisks.Proofs.Building
import GuestDisks.Proofs.Store

/-!
# What a run of steps leaves behind

A step either **claims** a slot for the outcome of some checks or only takes a note. In a run from
the empty assignment

* the first claim of a slot settles what the slot holds (`get_run`),
* each later claim is reported as a duplicate, and the findings of all steps follow each other
  (`report_run`),
* what a slot holds is well formed on its bus (`wellFormed_run`).
-/

namespace GuestDisks.Assignment

/-- Claims a slot for the outcome of checks: the slot gets the value, if there is one, and the
findings are reported. -/
def settle (a : Assignment) (s : Slot) (w : Checked Variant) : Assignment :=
  if s ∈ a.claimed then a.note s.name [.error (.duplicateSlot s.name)]
  else
    { config := w.value.elim a.config (a.config.set s)
      claimed := s :: a.claimed
      report := a.report ++ .ofFindings s.name w.findings }

namespace Step

/-- The slot that a step claims, and for what. -/
def claim? : Step → Option (Slot × Checked Variant)
  | .add r => some (r.slot, r.build)
  | .leaveUnchanged s => some (s, pure .unchanged)
  | .reject s p => some (s, .problem p)
  | .reportError _ _ | .reportWarning _ _ => none

/-- What a step that claims nothing reports. -/
def notes : Step → Report
  | .reportError place p => .ofFindings place [.error p]
  | .reportWarning place n => .ofFindings place [.warning n]
  | .add _ | .leaveUnchanged _ | .reject _ _ => []

/-- What a step claims a given slot for. -/
def claimOn (s : Slot) (st : Step) : Option (Checked Variant) :=
  st.claim?.bind fun c => if c.1 = s then some c.2 else none

/-- Whether a step claims a slot. -/
def names (s : Slot) (st : Step) : Bool := (st.claimOn s).isSome

/-- What a step reports after the steps before it. -/
def reports (before : List Step) (st : Step) : Report :=
  match st.claim? with
  | none => st.notes
  | some (s, w) =>
    .ofFindings s.name (if before.any (·.names s) then [.error (.duplicateSlot s.name)] else w.findings)

end Step

/-- What steps report, one after another, after the steps before them. -/
def reportsAfter : List Step → List Step → Report
  | _, [] => []
  | before, st :: sts => st.reports before ++ reportsAfter (before ++ [st]) sts

/-- What a slot holds after steps: the value of its first claim, and nothing without one. -/
def outcome (steps : List Step) (s : Slot) : Variant :=
  ((steps.findSome? (·.claimOn s)).bind (·.value)).getD .delete

variable {a : Assignment} {s t : Slot}

/-- Adding a device settles its slot with what is built from the request. So do the other operations, each
with a check of its own. -/
theorem add_eq_settle (a : Assignment) (r : Request) : (a.add r).1 = a.settle r.slot r.build := by
  by_cases h : r.slot ∈ a.claimed
  · simp only [add, claim, settle, if_pos h]
  · cases hv : r.build.value <;> simp only [add, claim, settle, note, if_neg h, hv] <;> rfl

theorem leaveUnchanged_eq_settle (a : Assignment) (s : Slot) :
    (a.leaveUnchanged s).1 = a.settle s (pure .unchanged) := by
  unfold leaveUnchanged claim settle
  split
  · rfl
  · simp [Report.ofFindings]

theorem reject_eq_settle (a : Assignment) (s : Slot) (p : Problem) :
    a.reject s p = a.settle s (.problem p) := by
  unfold reject claim settle note
  split <;> rfl

/-- **A step claims its slot or takes its note.** -/
theorem step_eq (a : Assignment) (st : Step) : (a.step st).1 =
    match st.claim? with
    | some (s, w) => a.settle s w
    | none => { a with report := a.report ++ st.notes } := by
  cases st with
  | add r => exact add_eq_settle a r
  | leaveUnchanged s => exact leaveUnchanged_eq_settle a s
  | reject s p => exact reject_eq_settle a s p
  | reportError place p => rfl
  | reportWarning place n => rfl

theorem run_cons (a : Assignment) (st : Step) (sts : List Step) :
    a.run (st :: sts) = (a.step st).1.run sts := rfl

/-- A run goes on from what the steps before came to. -/
theorem run_append (a : Assignment) (xs ys : List Step) : a.run (xs ++ ys) = (a.run xs).run ys := by
  unfold run; rw [List.foldl_append]

/-- Steps that claim nothing only take notes. -/
theorem run_notes (a : Assignment) {sts : List Step} (h : ∀ st ∈ sts, st.claim? = none) :
    a.run sts = { a with report := a.report ++ sts.flatMap (·.notes) } := by
  induction sts generalizing a with
  | nil => simp [run]
  | cons st sts ih =>
    obtain ⟨hst, h⟩ := List.forall_mem_cons.1 h
    rw [run_cons, ih _ h, step_eq, hst, List.flatMap_cons, ← List.append_assoc]

/-! ## The slots -/

theorem claimOn_eq (st : Step) (t : Slot) : st.claimOn t =
    match st.claim? with
    | some (s, w) => if s = t then some w else none
    | none => none := by
  unfold Step.claimOn
  rcases st.claim? with _ | ⟨s, w⟩ <;> rfl

theorem mem_claimed_settle (a : Assignment) (s t : Slot) (w : Checked Variant) :
    t ∈ (a.settle s w).claimed ↔ t ∈ a.claimed ∨ s = t := by
  unfold settle note
  by_cases hs : s ∈ a.claimed
  · rw [if_pos hs]
    exact ⟨.inl, fun h => h.elim id (· ▸ hs)⟩
  · rw [if_neg hs, List.mem_cons, or_comm, eq_comm]

/-- A step claims the slot that it names, if it names one, and gives none back. -/
theorem mem_claimed_step (a : Assignment) (st : Step) (t : Slot) :
    t ∈ (a.step st).1.claimed ↔ t ∈ a.claimed ∨ st.names t = true := by
  rw [step_eq]
  unfold Step.names
  rw [claimOn_eq]
  rcases st.claim? with _ | ⟨s, w⟩
  · simp
  · simp only [mem_claimed_settle]
    by_cases hst : s = t <;> simp [hst]

/-- The first claim on a slot gives it what the check comes to; nothing else changes what it holds. -/
theorem get_settle (a : Assignment) (s t : Slot) (w : Checked Variant) :
    (a.settle s w).config.get t =
      if s = t ∧ s ∉ a.claimed then w.value.getD (a.config.get t) else a.config.get t := by
  unfold settle note
  by_cases hs : s ∈ a.claimed
  · simp [hs]
  · by_cases hst : s = t
    · subst hst; cases w.value <;> simp [hs]
    · cases w.value <;> simp [hs, hst, Configuration.get_set_ne]

/-- A step changes only the slot that it claims, and only if no step claimed it before. -/
theorem get_step (a : Assignment) (st : Step) (t : Slot) : (a.step st).1.config.get t =
    if t ∈ a.claimed then a.config.get t
    else ((st.claimOn t).bind (·.value)).getD (a.config.get t) := by
  rw [step_eq, claimOn_eq]
  rcases st.claim? with _ | ⟨s, w⟩
  · simp
  · simp only [get_settle]
    by_cases hst : s = t
    · subst hst; by_cases hs : s ∈ a.claimed <;> simp [hs]
    · simp [hst]

/-- Every slot that no step has claimed is deleted. -/
def Fresh (a : Assignment) : Prop := ∀ s, s ∉ a.claimed → a.config.get s = .delete

theorem fresh_empty : Fresh empty := fun s _ => Configuration.get_empty s

/-- A slot without a claim is still deleted after a step. -/
theorem Fresh.step (h : Fresh a) (st : Step) : Fresh (a.step st).1 := by
  intro t ht
  rw [mem_claimed_step, not_or] at ht
  obtain ⟨ht, hn⟩ := ht
  have hnone : st.claimOn t = none := by simpa [Step.names] using hn
  rw [get_step, if_neg ht, hnone]
  exact h t ht

/-- **The first claim of a slot settles what it holds.** -/
theorem get_run (h : Fresh a) (steps : List Step) (t : Slot) :
    (a.run steps).config.get t = if t ∈ a.claimed then a.config.get t else outcome steps t := by
  induction steps generalizing a with
  | nil =>
    split
    · rfl
    · exact h t ‹_›
  | cons st steps ih =>
    rw [run_cons, ih (h.step st), get_step]
    -- a claimed slot keeps what it holds; a free one waits for the first step that claims it
    by_cases ht : t ∈ a.claimed
    · rw [if_pos ((mem_claimed_step ..).2 (.inl ht)), if_pos ht, if_pos ht]
    · rw [if_neg ht, if_neg ht]
      unfold outcome
      rw [List.findSome?_cons]
      rcases hw : st.claimOn t with _ | w
      · rw [if_neg (by rw [mem_claimed_step]; simp [Step.names, hw, ht])]
      · rw [if_pos ((mem_claimed_step ..).2 (.inr (by simp [Step.names, hw]))), h t ht]

theorem get_run_empty (steps : List Step) (t : Slot) :
    (empty.run steps).config.get t = outcome steps t := by
  rw [get_run fresh_empty, if_neg (by simp [empty])]

/-! ## The report -/

/-- A slot that is taken is reported as such, and else what the check found. -/
theorem report_settle (a : Assignment) (s : Slot) (w : Checked Variant) : (a.settle s w).report =
    a.report ++ .ofFindings s.name (if s ∈ a.claimed then [.error (.duplicateSlot s.name)] else w.findings) := by
  unfold settle note
  split <;> rfl

/-- **The findings of all steps follow each other**, those of a second claim being that the slot is
taken. -/
theorem report_run (before steps : List Step)
    (hb : ∀ s, s ∈ a.claimed ↔ before.any (·.names s) = true) :
    (a.run steps).report = a.report ++ reportsAfter before steps := by
  -- `before` are the steps that led to `a`; all that is kept of them is which slots they claimed
  induction steps generalizing a before with
  | nil => simp [run, reportsAfter]
  | cons st steps ih =>
    have hstep : (a.step st).1.report = a.report ++ st.reports before := by
      rw [step_eq]
      unfold Step.reports
      rcases st.claim? with _ | ⟨s, w⟩
      · rfl
      · simp only [report_settle, hb]
    rw [run_cons, ih (before ++ [st]), hstep, List.append_assoc]
    · rfl
    · intro s
      rw [mem_claimed_step, hb, List.any_append, Bool.or_eq_true]
      simp

theorem report_run_empty (steps : List Step) : (empty.run steps).report = reportsAfter [] steps := by
  rw [report_run [] steps (by simp [empty])]; rfl

/-- What a run reports is put together from its parts, each after the steps before it. -/
theorem reportsAfter_append (before xs ys : List Step) :
    reportsAfter before (xs ++ ys) = reportsAfter before xs ++ reportsAfter (before ++ xs) ys := by
  induction xs generalizing before with
  | nil => simp [reportsAfter]
  | cons st xs ih => simp [reportsAfter, ih]

/-! ## Warnings before a claim -/

/-- The warnings about keys that are not known at a slot. -/
def warnings (s : Slot) (keys : List String) : List Step :=
  keys.map fun key => .reportWarning s.name (.unknownField key)

/-- Steps name a slot exactly if one of them claims it. -/
theorem any_names (steps : List Step) (t : Slot) :
    steps.any (·.names t) = (steps.findSome? (·.claimOn t)).isSome := by
  rw [List.isSome_findSome?]; rfl

theorem findSome?_warnings (s t : Slot) (keys : List String) :
    (warnings s keys).findSome? (·.claimOn t) = none := by
  rw [List.findSome?_eq_none_iff]
  intro st hst
  obtain ⟨key, -, rfl⟩ := List.mem_map.1 hst
  rfl

theorem reportsAfter_warnings (before : List Step) (s : Slot) (keys : List String) :
    reportsAfter before (warnings s keys) =
      .ofFindings s.name (keys.map fun key => .warning (.unknownField key)) := by
  induction keys generalizing before with
  | nil => rfl
  | cons key keys ih =>
    unfold warnings at ih ⊢
    rw [List.map_cons, reportsAfter, ih]; rfl

variable {claim : Option Step} {w : Option (Checked Variant)}

/-- Steps that warn about keys and then make a claim claim what the claim does. -/
theorem findSome?_mention (hc : claim.map (·.claim?) = w.map fun w => some (s, w)) (keys : List String)
    (t : Slot) : (warnings s keys ++ claim.toList).findSome? (·.claimOn t) = if s = t then w else none := by
  rw [List.findSome?_append, findSome?_warnings, Option.none_or]
  cases claim with
  | none => cases w <;> simp_all
  | some st =>
    cases w with
    | none => simp at hc
    | some w =>
      have hst : st.claim? = some (s, w) := by simpa using hc
      rw [Option.toList_some, List.findSome?_singleton, claimOn_eq, hst]

/-- What is reported when a slot is mentioned: the warnings, and then what its claim comes to. -/
theorem reportsAfter_mention (hc : claim.map (·.claim?) = w.map fun w => some (s, w)) (keys : List String)
    (before : List Step) : reportsAfter before (warnings s keys ++ claim.toList) =
      .ofFindings s.name (keys.map (fun key => .warning (.unknownField key)) ++
        w.elim [] fun w =>
          if before.any (·.names s) then [.error (.duplicateSlot s.name)] else w.findings) := by
  have hw : (warnings s keys).any (·.names s) = false := by rw [any_names, findSome?_warnings]; rfl
  rw [reportsAfter_append, reportsAfter_warnings]
  cases claim with
  | none => cases w <;> simp_all [reportsAfter]
  | some st =>
    cases w with
    | none => simp at hc
    | some w =>
      have hst : st.claim? = some (s, w) := by simpa using hc
      simp only [Option.toList_some, reportsAfter, Step.reports, hst, List.any_append, hw, Bool.or_false,
        List.append_nil, Report.ofFindings, List.map_append, Option.elim_some]

/-! ## What slots hold is well formed -/

/-- What is claimed for a slot is well formed on its bus. -/
theorem wellFormed_claimOn {st : Step} {w : Checked Variant} {v : Variant}
    (hw : st.claimOn s = some w) (hv : w.value = some v) : v.WellFormedOn s.bus := by
  rw [claimOn_eq] at hw
  cases st with
  | add r =>
    simp only [Step.claim?, Option.ite_none_right_eq_some, Option.some.injEq] at hw
    obtain ⟨rfl, rfl⟩ := hw
    exact Request.build_wellFormed hv
  | leaveUnchanged t =>
    simp only [Step.claim?, Option.ite_none_right_eq_some, Option.some.injEq] at hw
    obtain ⟨-, rfl⟩ := hw
    cases hv; trivial
  | reject t p =>
    simp only [Step.claim?, Option.ite_none_right_eq_some, Option.some.injEq] at hw
    obtain ⟨-, rfl⟩ := hw
    cases hv
  | reportError place p => cases hw
  | reportWarning place n => cases hw

/-- **After any run, every slot holds something well formed on its bus.** -/
theorem wellFormed_run (steps : List Step) (s : Slot) :
    ((empty.run steps).config.get s).WellFormedOn s.bus := by
  -- only the first claim of the slot counts, and what a claim gives is well formed
  rw [get_run_empty]
  unfold outcome
  cases hf : steps.findSome? (·.claimOn s) with
  | none => trivial
  | some w =>
    obtain ⟨st, -, hw⟩ := List.exists_of_findSome?_eq_some hf
    cases hv : w.value with
    | none => simp only [Option.bind_some, hv]; trivial
    | some v => simp only [Option.bind_some, hv]; exact wellFormed_claimOn hw hv

end GuestDisks.Assignment
