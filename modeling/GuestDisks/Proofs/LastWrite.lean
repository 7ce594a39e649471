import GuestDisks.Proofs.CanonicalForm
import GuestDisks.Proofs.KeptValues

/-!
# The last write counts

A configuration is a vector that slots index by their places. Whatever is done to it, it behaves as a
map from slots: what a slot holds is what was stored there last since all slots were filled anew.

* `after_of_journal`: a history of operations gives the configuration of its journal, the list of what
  was stored since the last time a list was collected or an object read.
* `read_eq_ok_iff`: an object is read if all its keys name slots and all its values are variants, and
  then as the list that it spells.
* `last_write_counts`: after any history, getting, storing, collecting, reading and iterating are those
  of the map.
-/

namespace GuestDisks.Configuration

open Data Json

variable {α : Type} {c : Configuration} {s t : Slot} {v : Variant} {es : List (Slot × Variant)}

/-! ## Lists of pairs -/

/-- What a list says last of a slot. It says `delete` of a slot that it does not name. -/
def LastFor (es : List (Slot × Variant)) (s : Slot) (v : Variant) : Prop :=
  (∃ earlier later, es = earlier ++ (s, v) :: later ∧ ∀ e ∈ later, e.1 ≠ s) ∨
    (v = .delete ∧ ∀ e ∈ es, e.1 ≠ s)

/-- The last pair of a list is what it says last of that slot. -/
theorem LastFor.concat_self (es : List (Slot × Variant)) (s : Slot) (v : Variant) :
    LastFor (es ++ [(s, v)]) s v :=
  .inl ⟨es, [], rfl, List.forall_mem_nil _⟩

/-- A pair at the end says nothing of other slots. -/
theorem LastFor.concat (h : LastFor es s v) (hne : t ≠ s) (w : Variant) :
    LastFor (es ++ [(t, w)]) s v := by
  rcases h with ⟨earlier, later, rfl, hlater⟩ | ⟨rfl, hnone⟩
  · refine .inl ⟨earlier, later ++ [(t, w)], ?_, ?_⟩
    · rw [List.append_assoc, List.cons_append]
    · rw [List.forall_mem_append]
      exact ⟨hlater, List.forall_mem_singleton.2 hne⟩
  · refine .inr ⟨rfl, ?_⟩
    rw [List.forall_mem_append]
    exact ⟨hnone, List.forall_mem_singleton.2 hne⟩

/-- Of every slot a list says something last. -/
theorem exists_lastFor (es : List (Slot × Variant)) (s : Slot) : ∃ v, LastFor es s v := by
  induction es using List.reverseRecOn with
  | nil => exact ⟨.delete, .inr ⟨rfl, List.forall_mem_nil _⟩⟩
  | append_singleton es e ih =>
    obtain ⟨t, w⟩ := e
    obtain ⟨v, hv⟩ := ih
    by_cases h : t = s
    · subst h
      exact ⟨w, .concat_self es t w⟩
    · exact ⟨v, hv.concat h w⟩

theorem get_foldl_set_of_ne (h : ∀ e ∈ es, e.1 ≠ s) (c : Configuration) :
    (es.foldl (fun c e => c.set e.1 e.2) c).get s = c.get s := by
  induction es generalizing c with
  | nil => rfl
  | cons e es ih =>
    obtain ⟨hne, hrest⟩ := List.forall_mem_cons.1 h
    rw [List.foldl_cons, ih hrest, get_set_ne c e.2 hne]

/-- A slot holds what a list says last of it. -/
theorem get_ofList_of_lastFor (h : LastFor es s v) : (ofList es).get s = v := by
  rcases h with ⟨earlier, later, rfl, hlater⟩ | ⟨rfl, hnone⟩
  · unfold ofList
    rw [List.foldl_append, List.foldl_cons, get_foldl_set_of_ne hlater, get_set_self]
  · unfold ofList
    rw [get_foldl_set_of_ne hnone, get_empty]

/-- **A collected list leaves in each slot what it says last of it.** -/
theorem get_ofList_iff : (ofList es).get s = v ↔ LastFor es s v := by
  refine ⟨fun h => ?_, get_ofList_of_lastFor⟩
  obtain ⟨w, hw⟩ := exists_lastFor es s
  have hget : (ofList es).get s = w := get_ofList_of_lastFor hw
  rw [← h, hget]
  exact hw

theorem ofList_concat (es : List (Slot × Variant)) (s : Slot) (v : Variant) :
    ofList (es ++ [(s, v)]) = (ofList es).set s v := by
  unfold ofList
  rw [List.foldl_concat]

/-! ## Objects -/

variable [Shaped α]

/-- The data is an object whose keys name slots and whose values are variants, pair by pair. -/
def Lists (data : α) (es : List (Slot × Variant)) : Prop :=
  ∃ ms, shape data = .map ms true ∧
    List.Forall₂ (fun m e => Slot.ofName m.1 = .ok e.1 ∧ Variant.read m.2 = .ok e.2) ms es

/-- A member is read if its key names a slot and its value is a variant. -/
theorem readMember_eq_ok_iff {m : String × α} {e : Slot × Variant} :
    readMember m = .ok e ↔ Slot.ofName m.1 = .ok e.1 ∧ Variant.read m.2 = .ok e.2 := by
  unfold readMember
  cases hs : Slot.ofName m.1 with
  | error fault => simp [Except.mapError, bind, Except.bind]
  | ok s =>
    show (Variant.read m.2 >>= fun v => pure (s, v)) = .ok e ↔ _
    rw [bind_eq_ok_iff, Except.ok.injEq]
    constructor
    · rintro ⟨v, hv, ⟨⟩⟩
      exact ⟨rfl, hv⟩
    · rintro ⟨rfl, hv⟩
      exact ⟨e.2, hv, rfl⟩

/-- **Data is read if it lists pairs, and then as these.** -/
theorem read_eq_ok_iff {data : α} : read data = .ok c ↔ ∃ es, Lists data es ∧ ofList es = c := by
  unfold read Lists
  cases hshape : shape data with
  | map ms whole =>
    simp only [bind_eq_ok_iff, mapM_eq_ok_iff, readMember_eq_ok_iff]
    constructor
    · rintro ⟨es, hes, u, hwhole, ⟨⟩⟩
      cases whole with
      | true => exact ⟨es, ⟨ms, rfl, hes⟩, rfl⟩
      | false => cases hwhole
    · rintro ⟨es, ⟨ms', ⟨⟩, hes⟩, rfl⟩
      exact ⟨es, hes, (), rfl, rfl⟩
  | _ => simp

theorem exists_read_of_lists {data : α} (h : Lists data es) : read data = .ok (ofList es) :=
  read_eq_ok_iff.2 ⟨es, h, rfl⟩

/-- **An object with a key that names no slot is refused as a whole.** -/
theorem exists_fault_of_key {data : α} {ms : Members α} {whole : Bool} (hshape : shape data = .map ms whole)
    {m : String × α} (hm : m ∈ ms) (hkey : ∀ s, Slot.ofName m.1 ≠ .ok s) : ∃ fault, read data = .error fault := by
  cases hread : read data with
  | error fault => exact ⟨fault, rfl⟩
  | ok c =>
    obtain ⟨es, ⟨ms', hshape', hes⟩, -⟩ := read_eq_ok_iff.1 hread
    rw [hshape] at hshape'
    obtain ⟨rfl, -⟩ := Shape.map.inj hshape'
    obtain ⟨e, -, hname, -⟩ := exists_of_mem_forall₂ hes hm
    exact absurd hname (hkey e.1)

/-! ## Histories -/

/-- What is done to a configuration. -/
inductive Operation (α : Type)
  | set (s : Slot) (v : Variant)
  /-- A list takes the place of the configuration. -/
  | collect (es : List (Slot × Variant))
  /-- What is read takes the place of the configuration, unless it is refused. -/
  | load (data : α)

def Operation.perform (c : Configuration) : Operation α → Configuration
  | set s v => (c.replace s v).2
  | collect es => ofList es
  | load data =>
    match read data with
    | .ok c' => c'
    | .error _ => c

/-- The configuration after operations on a new one. -/
def after (ops : List (Operation α)) : Configuration := ops.foldl Operation.perform empty

/-- What was stored since all slots were last filled anew, in order. -/
inductive Journal : List (Operation α) → List (Slot × Variant) → Prop
  | new : Journal [] []
  | set {ops es} (h : Journal ops es) (s : Slot) (v : Variant) : Journal (ops ++ [.set s v]) (es ++ [(s, v)])
  | collect (ops es) : Journal (ops ++ [.collect es]) es
  | load (ops) {data es} (h : Lists data es) : Journal (ops ++ [.load data]) es
  | refused {ops data es} (h : Journal ops es) (hdata : ∀ es', ¬ Lists data es') :
    Journal (ops ++ [.load data]) es

variable {ops : List (Operation α)}

/-- Every history has a journal. -/
theorem exists_journal (ops : List (Operation α)) : ∃ es, Journal ops es := by
  induction ops using List.reverseRecOn with
  | nil => exact ⟨[], .new⟩
  | append_singleton ops op ih =>
    obtain ⟨es, hes⟩ := ih
    cases op with
    | set s v => exact ⟨es ++ [(s, v)], hes.set s v⟩
    | collect es' => exact ⟨es', .collect ops es'⟩
    | load data =>
      by_cases h : ∃ es', Lists data es'
      · obtain ⟨es', hes'⟩ := h
        exact ⟨es', .load ops hes'⟩
      · exact ⟨es, hes.refused (not_exists.1 h)⟩

/-- Data that does not list pairs changes nothing. -/
theorem perform_refused {data : α} (h : ∀ es, ¬ Lists data es) (c : Configuration) :
    Operation.perform c (.load data) = c := by
  cases hread : read data with
  | error fault => rw [Operation.perform, hread]
  | ok c' =>
    obtain ⟨es, hes, -⟩ := read_eq_ok_iff.1 hread
    exact absurd hes (h es)

/-- **A history gives the configuration of its journal.** -/
theorem after_of_journal (h : Journal ops es) : after ops = ofList es := by
  unfold after
  induction h with
  | new => rfl
  | @set ops es _ s v ih =>
    rw [List.foldl_concat, ih, ofList_concat]
    exact congrArg Prod.snd (replace_eq (ofList es) s v)
  | collect ops es => rw [List.foldl_concat]; rfl
  | @load ops data es hdata =>
    rw [List.foldl_concat, Operation.perform, exists_read_of_lists hdata]
  | refused _ hdata ih => rw [List.foldl_concat, ih, perform_refused hdata]

/-- The configuration is a map from slots to variants, and all that looks at it sees that map. -/
structure IsMap (c : Configuration) : Prop where
  inBounds : ∀ s : Slot, c.variants.toArray[s.ordinal]? = some (c.get s)
  taken : ∀ s v, (c.replace s v).1 = c.get s
  stored : ∀ s v, (c.replace s v).2.get s = v
  others : ∀ s v t, t ≠ s → (c.replace s v).2.get t = c.get t
  entries : ∀ s v, (s, v) ∈ c.entries ↔ c.get s = v
  ascending : (c.entries.map (·.1)).Pairwise Slot.Precedes
  devices : c.devices = c.entries.filter fun e => decide (e.2 ≠ .delete ∧ e.2 ≠ .unchanged)
  cloudInit : c.hasCloudInit = true ↔ ∃ s storage, c.get s = .cloudInit storage

theorem map_slot_entries (c : Configuration) : c.entries.map (·.1) = Slot.all := by
  rw [entries_eq, List.map_map]
  exact List.map_id Slot.all

/-- Every configuration is a map from slots. -/
theorem isMap (c : Configuration) : c.IsMap where
  inBounds s := by
    have hlt : s.ordinal < c.variants.toArray.size := by
      rw [Vector.size_toArray]; exact s.ordinal_lt
    rw [Array.getElem?_eq_getElem hlt]; rfl
  taken s v := by rw [replace_eq]
  stored s v := by rw [replace_eq, get_set_self]
  others s v t h := by rw [replace_eq, get_set_ne c v (Ne.symm h)]
  entries s v := by rw [mem_entries, eq_comm]
  ascending := by rw [map_slot_entries]; exact Slot.pairwise_all
  devices := by
    unfold devices
    refine List.filter_congr fun e _ => ?_
    rw [Bool.eq_iff_iff, Bool.not_eq_true', Bool.eq_false_iff, ne_eq, Variant.isEmpty_iff, not_or,
      decide_eq_true_iff]
  cloudInit := hasCloudInit_iff

/-- **Every slot holds what was stored there last.** After any history the configuration is a map that
holds in each slot what the journal says last of it. A list that is collected counts by its last pair
for a slot, and so does an object that is read; with a key that names no slot nothing of it is read. -/
theorem last_write_counts (ops : List (Operation α)) :
    (after ops).IsMap ∧
    (∃ es, Journal ops es) ∧
    (∀ es, Journal ops es → ∀ s v, (after ops).get s = v ↔ LastFor es s v) ∧
    (∀ es s v, (ofList es).get s = v ↔ LastFor es s v) ∧
    (∀ (data : α) es, Lists data es →
      ∃ c, read data = .ok c ∧ ∀ s v, c.get s = v ↔ LastFor es s v) ∧
    (∀ (data : α) ms whole, shape data = .map ms whole →
      (∃ m ∈ ms, ∀ s, Slot.ofName m.1 ≠ .ok s) → ∃ fault, read data = .error fault) := by
  refine ⟨isMap _, exists_journal ops, ?_, fun _ _ _ => get_ofList_iff, ?_, ?_⟩
  · intro es hes s v
    rw [after_of_journal hes, get_ofList_iff]
  · intro data es hes
    exact ⟨ofList es, exists_read_of_lists hes, fun _ _ => get_ofList_iff⟩
  · rintro data ms whole hshape ⟨m, hm, hkey⟩
    exact exists_fault_of_key hshape hm hkey

/-- An object that names a slot twice is read over a slot that was set before, and one slot is set after
it. An object with a key beyond the slots of its bus is refused. -/
theorem last_write_counts_reloaded :
    let ide0 : Slot := ⟨.ide, 0, by decide⟩
    let ide1 : Slot := ⟨.ide, 1, by decide⟩
    let ide2 : Slot := ⟨.ide, 2, by decide⟩
    let data : Draft := draft (.object [("ide1", (Variant.cdrom .none).json),
      ("ide0", Variant.unchanged.json), ("ide1", (Variant.cdrom .passthrough).json)])
    let c := after [.set ide2 .unchanged, .load data, .set ide0 .delete]
    c.get ide0 = .delete ∧ c.get ide1 = .cdrom .passthrough ∧ c.get ide2 = .delete ∧
      ∃ fault, read (draft (.object [("ide0", Variant.unchanged.json), ("ide4", Variant.delete.json)])) =
        .error fault := by
  intro ide0 ide1 ide2 data c
  have hdata : Lists data [(ide1, .cdrom .none), (ide0, .unchanged), (ide1, .cdrom .passthrough)] := by
    have h0 : Slot.ofName "ide0" = .ok ide0 := by decide +kernel
    have h1 : Slot.ofName "ide1" = .ok ide1 := by decide +kernel
    refine ⟨_, shape_draft_object _, ?_⟩
    exact .cons ⟨h1, Variant.read_json nofun⟩ <| .cons ⟨h0, Variant.read_json nofun⟩ <|
      .cons ⟨h1, Variant.read_json nofun⟩ .nil
  have hjournal : Journal [.set ide2 .unchanged, .load data, .set ide0 .delete]
      [(ide1, .cdrom .none), (ide0, .unchanged), (ide1, .cdrom .passthrough), (ide0, .delete)] :=
    (Journal.load [.set ide2 .unchanged] hdata).set ide0 .delete
  obtain ⟨-, -, hget, -, -, hrefused⟩ := last_write_counts [.set ide2 .unchanged, .load data, .set ide0 .delete]
  refine ⟨(hget _ hjournal ide0 _).2 ?_, (hget _ hjournal ide1 _).2 ?_, (hget _ hjournal ide2 _).2 ?_, ?_⟩
  · exact .inl ⟨[_, _, _], [], rfl, List.forall_mem_nil _⟩
  · exact .inl ⟨[_, _], [_], rfl, by decide⟩
  · exact .inr ⟨rfl, by decide⟩
  · refine hrefused _ _ _ (shape_draft_object _) ⟨("ide4", draft Variant.delete.json), ?_, ?_⟩
    · exact .tail _ (.head _)
    · intro s hs
      have h4 : Slot.ofName "ide4" = .error (.outOfRange .ide 4) := by decide +kernel
      rw [h4] at hs
      cases hs

end GuestDisks.Configuration
