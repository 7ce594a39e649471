import GuestDisks.Proofs.Checks

/-!
# The texts that fields accept

Which texts are taken for a field that is not left out, and what is made of them. An empty text leaves a
field out, and so is put aside here: for each field this is what is accepted of the other texts.

* `exists_label_iff_mem`: names are taken if they are labels, and stand for the value with that label.
* `serial_eq_ok_iff_of_ne`, `wwn_eq_ok_iff_of_ne`: texts that are kept are kept as they are.
* `exists_iso_iff`: an image needs something before the first colon and something after it.
* `accepted_texts`: all of this for one text.
-/

namespace GuestDisks

/-- The names of finitely many values are their labels. -/
theorem exists_label_iff_mem {β : Type} {label : β → String} {all : List β} (hall : ∀ b, b ∈ all)
    {name : String} : (∃ b, label b = name) ↔ name ∈ all.map label := by
  rw [List.mem_map]
  constructor
  · rintro ⟨b, hb⟩; exact ⟨b, hall b, hb⟩
  · rintro ⟨b, -, hb⟩; exact ⟨b, hb⟩

/-- The same for values that may be left out. -/
theorem exists_some_label_iff_mem {β : Type} {label : β → String} {all : List β} (hall : ∀ b, b ∈ all)
    {name : String} : (∃ o : Option β, ∃ b, o = some b ∧ label b = name) ↔ name ∈ all.map label := by
  rw [← exists_label_iff_mem hall]
  constructor
  · rintro ⟨-, b, -, hb⟩; exact ⟨b, hb⟩
  · rintro ⟨b, hb⟩; exact ⟨some b, b, rfl, hb⟩

namespace Check

variable {raw : String}

/-! ## Names -/

/-- A format is written as the label of one. -/
theorem format_eq_ok_iff_of_ne (h : raw ≠ "") {f : ImageFormat} : format raw = .ok f ↔ f.label = raw := by
  rw [← ofLabel?_eq_some_iff ImageFormat.mem_all ImageFormat.label_injective]
  unfold format
  rw [if_neg h]
  cases ofLabel? ImageFormat.label ImageFormat.all raw <;> simp

/-- A text that is not empty is written for a value that is there. -/
theorem eq_labelOrEmpty_iff_of_ne {β : Type} {label : β → String} (h : raw ≠ "") {o : Option β} :
    raw = (o.map label).getD "" ↔ ∃ b, o = some b ∧ label b = raw := by
  cases o with
  | none => simp [h]
  | some b => simp [eq_comm]

theorem cache_eq_ok_iff_of_ne (h : raw ≠ "") {o : Option CacheMode} :
    cache raw = .ok o ↔ ∃ c, o = some c ∧ c.label = raw :=
  cache_eq_ok_iff.trans (eq_labelOrEmpty_iff_of_ne h)

theorem engine_eq_ok_iff_of_ne (h : raw ≠ "") {o : Option IoEngine} :
    engine raw = .ok o ↔ ∃ e, o = some e ∧ e.label = raw :=
  engine_eq_ok_iff.trans (eq_labelOrEmpty_iff_of_ne h)

/-! ## Texts that are kept as they are -/

/-- A text that is not empty is the one that is kept. -/
theorem eq_getD_iff_of_ne {P : String → Prop} (h : raw ≠ "") {o : Option String} :
    (raw = o.getD "" ∧ ∀ s ∈ o, P s) ↔ o = some raw ∧ P raw := by
  cases o with
  | none => simp [h]
  | some s =>
    simp only [Option.getD_some, Option.mem_some_iff, forall_eq', Option.some.injEq]
    constructor
    · rintro ⟨rfl, hs⟩; exact ⟨rfl, hs⟩
    · rintro ⟨rfl, hs⟩; exact ⟨rfl, hs⟩

/-- A serial number is kept as it is written, and a text that is none is refused. -/
theorem serial_eq_ok_iff_of_ne (h : raw ≠ "") {o : Option String} :
    serial raw = .ok o ↔ o = some raw ∧ IsSerialNumber raw :=
  serial_eq_ok_iff.trans (eq_getD_iff_of_ne h)

theorem wwn_eq_ok_iff_of_ne (h : raw ≠ "") {o : Option String} :
    wwn raw = .ok o ↔ o = some raw ∧ IsWorldWideName raw :=
  wwn_eq_ok_iff.trans (eq_getD_iff_of_ne h)

/-! ## Images -/

/-- The first colon stands behind the part without colons. -/
theorem idxOf_colon {ss fs : List Char} (h : ':' ∉ ss) : (ss ++ ':' :: fs).idxOf ':' = ss.length := by
  rw [List.idxOf_append_of_notMem h, List.idxOf_cons_self, Nat.add_zero]

/-- A text names an image if it has a first colon with something before it and something after it. -/
theorem exists_iso_iff : (∃ p, iso raw = .ok p) ↔
    ':' ∈ raw.toList ∧ 0 < raw.toList.idxOf ':' ∧ raw.toList.idxOf ':' + 1 < raw.toList.length := by
  constructor
  · rintro ⟨⟨storage, file⟩, hiso⟩
    obtain ⟨rfl, hstorage, hcolon, hfile⟩ := iso_eq_ok_iff.1 hiso
    have htext : (storage ++ ":" ++ file).toList = storage.toList ++ ':' :: file.toList := by simp
    have hbefore : 0 < storage.toList.length := List.length_pos_iff.2 (mt String.toList_eq_nil_iff.1 hstorage)
    have hafter : 0 < file.toList.length := List.length_pos_iff.2 (mt String.toList_eq_nil_iff.1 hfile)
    rw [htext, idxOf_colon hcolon, List.length_append, List.length_cons]
    exact ⟨by simp, hbefore, by omega⟩
  · rintro ⟨hmem, hbefore, hafter⟩
    -- the text is cut at its first colon; further ones are left in the second part
    obtain ⟨ss, fs, htext, hcolon⟩ := List.eq_append_cons_of_mem hmem
    rw [htext, idxOf_colon hcolon] at hbefore hafter
    rw [List.length_append, List.length_cons] at hafter
    refine ⟨(.ofList ss, .ofList fs), iso_eq_ok_iff.2 ⟨?_, ?_, by rwa [String.toList_ofList], ?_⟩⟩
    · rw [← String.toList_inj, htext]; simp
    · rw [ne_eq, ← String.toList_eq_nil_iff, String.toList_ofList]
      exact List.length_pos_iff.1 hbefore
    · rw [ne_eq, ← String.toList_eq_nil_iff, String.toList_ofList]
      exact List.length_pos_iff.1 (by omega)

/-- **What a text is taken for.** A serial number and a world wide name are kept as they are. Names of
formats, cache modes and engines are those that stand for a value, and are written for it. A text names
an image if there is something on either side of its first colon, at which it is cut; so every storage
without a colon and every file are read from the text that joins them. -/
theorem accepted_texts (h : raw ≠ "") :
    (∀ o, serial raw = .ok o ↔ o = some raw ∧ IsSerialNumber raw) ∧
    (∀ o, wwn raw = .ok o ↔ o = some raw ∧ IsWorldWideName raw) ∧
    (((∃ f, format raw = .ok f) ↔ raw ∈ ["raw", "cow", "qcow", "qed", "qcow2", "vmdk", "cloop"]) ∧
      ∀ f, format raw = .ok f ↔ f.label = raw) ∧
    (((∃ o, cache raw = .ok o) ↔ raw ∈ ["none", "directsync", "unsafe", "writeback", "writethrough"]) ∧
      ∀ o, cache raw = .ok o ↔ ∃ c, o = some c ∧ c.label = raw) ∧
    (((∃ o, engine raw = .ok o) ↔ raw ∈ ["native", "threads", "io_uring"]) ∧
      ∀ o, engine raw = .ok o ↔ ∃ e, o = some e ∧ e.label = raw) ∧
    ((∃ p, iso raw = .ok p) ↔
      ':' ∈ raw.toList ∧ 0 < raw.toList.idxOf ':' ∧ raw.toList.idxOf ':' + 1 < raw.toList.length) ∧
    (∀ storage file, iso raw = .ok (storage, file) →
      storage ++ ":" ++ file = raw ∧ ':' ∉ storage.toList) ∧
    ∀ storage file, storage ≠ "" → ':' ∉ storage.toList → file ≠ "" →
      iso (storage ++ ":" ++ file) = .ok (storage, file) := by
  refine ⟨fun _ => serial_eq_ok_iff_of_ne h, fun _ => wwn_eq_ok_iff_of_ne h,
    ⟨?format, fun _ => format_eq_ok_iff_of_ne h⟩, ⟨?cache, fun _ => cache_eq_ok_iff_of_ne h⟩,
    ⟨?engine, fun _ => engine_eq_ok_iff_of_ne h⟩, exists_iso_iff, ?result, ?written⟩
  case format =>
    simp only [format_eq_ok_iff_of_ne h]
    exact exists_label_iff_mem ImageFormat.mem_all
  case cache =>
    simp only [cache_eq_ok_iff_of_ne h]
    exact exists_some_label_iff_mem CacheMode.mem_all
  case engine =>
    simp only [engine_eq_ok_iff_of_ne h]
    exact exists_some_label_iff_mem IoEngine.mem_all
  case result =>
    intro storage file hiso
    obtain ⟨hraw, -, hcolon, -⟩ := iso_eq_ok_iff.1 hiso
    exact ⟨hraw.symm, hcolon⟩
  case written =>
    intro storage file hstorage hcolon hfile
    exact iso_eq_ok_iff.2 ⟨rfl, hstorage, hcolon, hfile⟩

/-- A text with two colons names an image whose path has the second one. It is no serial number, having
characters of another sort, and the name of no format. -/
theorem accepted_texts_two_colons :
    "local:iso/a:b" ≠ "" ∧ (∀ o, serial "local:iso/a:b" ≠ .ok o) ∧ (∀ f, format "local:iso/a:b" ≠ .ok f) ∧
      (∃ p, iso "local:iso/a:b" = .ok p) ∧
      "local" ≠ "" ∧ ':' ∉ "local".toList ∧ "iso/a:b" ≠ "" ∧ iso "local:iso/a:b" = .ok ("local", "iso/a:b") := by
  have hne : "local:iso/a:b" ≠ "" := by decide
  have hstorage : "local" ≠ "" := by decide
  have hcolon : ':' ∉ "local".toList := by decide
  have hfile : "iso/a:b" ≠ "" := by decide
  obtain ⟨hserial, -, hformat, -, -, hiso, -, hwritten⟩ := accepted_texts hne
  refine ⟨hne, fun o ho => ?_, fun f hf => ?_, hiso.2 (by decide), hstorage, hcolon, hfile,
    hwritten _ _ hstorage hcolon hfile⟩
  · exact absurd ((hserial o).1 ho).2 (by decide)
  · exact absurd (hformat.1.1 ⟨f, hf⟩) (by decide)

end Check

end GuestDisks
