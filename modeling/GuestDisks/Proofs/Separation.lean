import GuestDisks.Proofs.TableMeaning
import Mathlib.Data.List.FinRange

/-!
# Slots do not interfere

What a document comes to for one slot depends on what it says of that slot alone.

* Of a list, these are the entries that name the slot: read by themselves they give the slot the same
  variant (`DiskList.get_decode_filter`), and they report all that is reported about the slot
  (`DiskList.about_decode`). So entries of different slots may change places (`filter_reordered`).
* Of slot tables, it is the slot's own table (`BusTables.about_decode`).

`slots_do_not_interfere` says this of any two documents.
-/

namespace GuestDisks

open Assignment Data

/-! ## Parts of reports -/

/-- The part of a report that belongs to a place. -/
def Report.about (r : Report) (place : String) : Report := r.filter fun d => d.place = place

namespace Report

variable {r r' : Report} {place : String}

theorem about_append (r r' : Report) (place : String) :
    about (r ++ r') place = about r place ++ about r' place :=
  List.filter_append ..

theorem about_flatMap {α : Type} (xs : List α) (f : α → Report) (place : String) :
    about (xs.flatMap f) place = xs.flatMap fun x => about (f x) place :=
  List.filter_flatMap ..

/-- What is found at one place is not about another. -/
theorem about_ofFindings (fs : List Finding) (place place' : String) :
    about (.ofFindings place fs) place' = if place = place' then Report.ofFindings place fs else [] := by
  unfold about
  rw [filter_ofFindings]
  by_cases h : place = place' <;> simp [h, ofFindings]

/-- Where each slot is reported on under its own name, the part of a slot is what is reported on it. -/
theorem about_flatMap_slots {f : Slot → Report}
    (hf : ∀ u s, about (f u) s.name = if u = s then f u else []) {slots : List Slot}
    (hn : slots.Nodup) (s : Slot) : about (slots.flatMap f) s.name = if s ∈ slots then f s else [] := by
  induction slots with
  | nil => rfl
  | cons u slots ih =>
    obtain ⟨hu, hn⟩ := List.nodup_cons.1 hn
    rw [List.flatMap_cons, about_append, hf, ih hn]
    by_cases h : u = s
    · subst h; simp [hu]
    · simp [h, Ne.symm h]

end Report

/-! ## Lists -/

namespace Entry

variable {e : Entry} {s : Slot}

/-- An entry reports about the slot that it names, and about no other. -/
theorem about_reports (before : List Entry) (position : Nat) (e : Entry) (s : Slot) :
    (e.reports before position).about s.name = if e.names s then e.reports before position else [] := by
  cases hs : Slot.ofName e.slot with
  | error fault =>
    simp [reports, names, hs, Report.about_ofFindings, (name_ne_place s position).symm, Except.toOption]
  | ok u =>
    have hn : e.names s = true ↔ u = s := by rw [names_eq_true_iff, hs, Except.ok.injEq]
    simp only [reports, hs, Report.about_ofFindings, hn, Slot.name_injective.eq_iff]

/-- Of the entries before it, an entry is told only whether they name its slot. -/
theorem reports_filter (h : e.names s = true) (before : List Entry) (i j : Nat) :
    e.reports (before.filter (·.names s)) j = e.reports before i := by
  have hany : (before.filter (·.names s)).any (·.names s) = before.any (·.names s) := by
    rw [List.any_filter]; simp
  unfold reports
  rw [names_eq_true_iff.1 h]
  simp only [hany]

end Entry

namespace DiskList

/-- What is reported about a slot is about the entries that name it. -/
theorem about_reportsFrom (before es : List Entry) (s : Slot) : (reportsFrom before es).about s.name =
    reportsFrom (before.filter (·.names s)) (es.filter (·.names s)) := by
  induction es generalizing before with
  | nil => rfl
  | cons e es ih =>
    have hfilter : (before ++ [e]).filter (·.names s) =
        before.filter (·.names s) ++ if e.names s then [e] else [] := by
      rw [List.filter_append, List.filter_cons, List.filter_nil]
    rw [reportsFrom_cons, Report.about_append, Entry.about_reports, ih, hfilter]
    by_cases hn : e.names s = true
    · rw [if_pos hn, if_pos hn, List.filter_cons_of_pos hn, reportsFrom_cons, Entry.reports_filter hn]
    · rw [if_neg hn, if_neg hn, List.filter_cons_of_neg hn, List.append_nil, List.nil_append]

/-- **What is reported about a slot is the report of the entries that name it.** -/
theorem about_decode (es : List Entry) (s : Slot) :
    (decode es).1.report.about s.name = (decode (es.filter (·.names s))).1.report := by
  rw [report_decode, report_decode]
  exact about_reportsFrom [] es s

/-- **What a slot holds is settled by the entries that name it.** -/
theorem get_decode_filter (es : List Entry) (s : Slot) :
    (decode es).1.config.get s = (decode (es.filter (·.names s))).1.config.get s := by
  rw [get_decode, get_decode]
  unfold meaning
  rw [List.find?_filter]
  simp

end DiskList

/-- A list with its members in another order: at each place, the member from the place that `σ` gives. -/
def reordered {α : Type} (xs : List α) (σ : Equiv.Perm (Fin xs.length)) : List α :=
  (List.finRange xs.length).map fun i => xs[σ i]

/-- Members of one sort stay in order if the reordering keeps it among them. -/
theorem filter_reordered {α : Type} {xs : List α} {σ : Equiv.Perm (Fin xs.length)} {p : α → Bool}
    (h : ∀ i j, i < j → p xs[σ i] = true → p xs[σ j] = true → σ i < σ j) :
    (reordered xs σ).filter p = xs.filter p := by
  -- the places of these members, taken through `σ`, ascend as they do without it
  have hplaces : ((List.finRange xs.length).filter fun i => p xs[σ i]).map σ =
      (List.finRange xs.length).filter fun i => p xs[i] := by
    have hasymm : ∀ i j : Fin xs.length, i < j → j < i → i = j := fun i j hij hji =>
      absurd hij hji.asymm
    refine List.Perm.eq_of_pairwise (fun i j _ _ => hasymm i j) ?_
      ((List.pairwise_lt_finRange _).filter _) ?_
    · rw [List.pairwise_map]
      refine ((List.pairwise_lt_finRange _).filter _).imp_of_mem fun {i j} hi hj hij => ?_
      exact h i j hij (List.mem_filter.1 hi).2 (List.mem_filter.1 hj).2
    · have hmap : ((List.finRange xs.length).filter fun i => p xs[σ i]).map σ =
          ((List.finRange xs.length).map σ).filter fun i => p xs[i] := by
        rw [List.filter_map]; rfl
      rw [hmap]
      exact σ.map_finRange_perm.filter _
  have hxs : xs.filter p = ((List.finRange xs.length).filter fun i => p xs[i]).map fun i => xs[i] := by
    conv_lhs => rw [← List.map_getElem_finRange xs]
    exact List.filter_map
  rw [hxs, ← hplaces, List.map_map, reordered]
  exact List.filter_map

/-! ## Slot tables -/

namespace BusTables

/-- No slot has the name of a place in the map. -/
theorem name_ne_place (s : Slot) (bus : Bus) (key : String) : s.name ≠ place bus key := by
  intro h
  unfold place at h
  rw [← String.toList_inj, Slot.toList_name] at h
  simp only [String.toList_append] at h
  cases hb : s.bus <;> rw [hb] at h <;> simp [Bus.label] at h

/-- Keys without a slot are not reported about a slot. -/
theorem about_misplaced (t : BusTables) (s : Slot) : t.misplaced.about s.name = [] := by
  unfold misplaced
  rw [Report.about_flatMap, List.flatMap_eq_nil_iff]
  intro e _
  cases Slot.ofNameOn e.1 e.2.1 with
  | ok u => rfl
  | error fault => simp only [Report.about_ofFindings, if_neg (name_ne_place s _ _).symm]

/-- The table of a slot is reported about that slot only. -/
theorem about_reportsOf (t : BusTables) (u s : Slot) :
    (t.reportsOf u).about s.name = if u = s then t.reportsOf u else [] := by
  unfold reportsOf
  cases t.tableOf u with
  | none => simp [Report.about]
  | some table => simp only [Option.elim_some, SlotTable.reports, Report.about_ofFindings,
      Slot.name_injective.eq_iff]

/-- **What is reported about a slot is what is reported about its table.** -/
theorem about_decode (t : BusTables) (s : Slot) : t.decode.1.report.about s.name = t.reportsOf s := by
  rw [report_decode]
  unfold reports
  rw [Report.about_append, about_misplaced, List.nil_append,
    Report.about_flatMap_slots t.about_reportsOf Slot.nodup_all, if_pos (Slot.mem_all s)]

end BusTables

/-! ## Any two documents -/

/-- **Slots do not interfere.** Two lists with the same entries for a slot, in the same order, give the
slot the same variant and report the same about it, whatever else they hold. So a list may be reordered
as long as the entries of each slot keep their order: the configuration stays the same, and the list
written for it. Slot tables that agree on the table of a slot give it the same variant and report the
same about it. -/
theorem slots_do_not_interfere :
    (∀ (es es' : List Entry) (s : Slot), es.filter (·.names s) = es'.filter (·.names s) →
      (DiskList.decode es).1.config.get s = (DiskList.decode es').1.config.get s ∧
        (DiskList.decode es).1.report.about s.name = (DiskList.decode es').1.report.about s.name) ∧
    (∀ (es : List Entry) (σ : Equiv.Perm (Fin es.length)),
      (∀ i j s, i < j → es[σ i].names s = true → es[σ j].names s = true → σ i < σ j) →
        (DiskList.decode (reordered es σ)).1.config = (DiskList.decode es).1.config ∧
          DiskList.encode (DiskList.decode (reordered es σ)).1.config =
            DiskList.encode (DiskList.decode es).1.config) ∧
    ∀ (t t' : BusTables) (s : Slot), t.tableOf s = t'.tableOf s →
      t.decode.1.config.get s = t'.decode.1.config.get s ∧
        t.decode.1.report.about s.name = t'.decode.1.report.about s.name := by
  refine ⟨fun es es' s h => ⟨?variant, ?report⟩, fun es σ h => ?reordered, fun t t' s h => ⟨?own, ?about⟩⟩
  case variant => rw [DiskList.get_decode_filter es, h, ← DiskList.get_decode_filter]
  case report => rw [DiskList.about_decode es, h, ← DiskList.about_decode]
  case reordered =>
    have hconfig : (DiskList.decode (reordered es σ)).1.config = (DiskList.decode es).1.config := by
      refine Configuration.ext_get fun s => ?_
      rw [DiskList.get_decode_filter, filter_reordered fun i j hij => h i j s hij,
        ← DiskList.get_decode_filter]
    exact ⟨hconfig, congrArg DiskList.encode hconfig⟩
  case own =>
    rw [BusTables.get_decode, BusTables.get_decode]
    unfold BusTables.meaning
    rw [h]
  case about =>
    rw [BusTables.about_decode, BusTables.about_decode]
    unfold BusTables.reportsOf
    rw [h]

/-- A drive is read the same after entries of which nothing comes, in a list turned round, and beside a
table for a slot of another bus. -/
theorem slots_do_not_interfere_drive :
    let drive : Slot := ⟨.ide, 2, by decide⟩
    let entry : Entry := { slot := "ide2", kind := "cdrom", fields := {} }
    let other : Entry := { slot := "scsi0", kind := "disk", fields := {} }
    let stray : Entry := { slot := "nvme0", kind := "floppy", fields := {} }
    let tables : BusTables := { ide := .ofList [("ide2", { ignore := true })] }
    let more : BusTables := { tables with scsi := .ofList [("ide2", {}), ("scsi0", { cdrom := some {} })] }
    ([entry].filter (·.names drive) = [stray, other, entry].filter (·.names drive) ∧
      (DiskList.decode [entry]).1.config.get drive =
        (DiskList.decode [stray, other, entry]).1.config.get drive) ∧
    (reordered [entry, other] (Equiv.swap 0 1) = [other, entry] ∧
      (DiskList.decode [other, entry]).1.config = (DiskList.decode [entry, other]).1.config) ∧
    (tables.tableOf drive = more.tableOf drive ∧
      tables.decode.1.config.get drive = more.decode.1.config.get drive) := by
  intro drive entry other stray tables more
  have hfilter : [entry].filter (·.names drive) = [stray, other, entry].filter (·.names drive) := by
    have hstray : ¬stray.names drive = true := by decide
    have hother : ¬other.names drive = true := by decide
    rw [List.filter_cons_of_neg hstray, List.filter_cons_of_neg hother]
  have htable : tables.tableOf drive = more.tableOf drive := rfl
  refine ⟨⟨hfilter, (slots_do_not_interfere.1 _ _ _ hfilter).1⟩,
    ⟨rfl, (slots_do_not_interfere.2.1 [entry, other] (Equiv.swap 0 1) fun i j s hij hi hj => ?_).1⟩,
    ⟨htable, (slots_do_not_interfere.2.2 _ _ _ htable).1⟩⟩
  -- the two entries name different slots, so there is no order to keep
  have hpair : ∀ i j : Fin 2, i < j → i = 0 ∧ j = 1 := by decide
  obtain ⟨rfl, rfl⟩ := hpair i j hij
  have hslot := Slot.ofName_eq_ok_iff.1 (Entry.names_eq_true_iff.1 hi)
  have hslot' := Slot.ofName_eq_ok_iff.1 (Entry.names_eq_true_iff.1 hj)
  exact absurd (hslot.trans hslot'.symm) (by decide)

end GuestDisks
