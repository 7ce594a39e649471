import GuestDisks.Proofs.Agreement
import GuestDisks.Proofs.Problems
import GuestDisks.Proofs.SizeFields

/-!
# Changes that are only cosmetic

Different texts can ask for the same size or for the same format of an image. A change from one to the
other is cosmetic: nothing else is built. Texts that are no good ask for the same only if they are equal,
but for sizes there is one more case: the grammar takes some texts that stand for no size, such as numbers
out of range, and all of these ask for the same, with which nothing is built.

* `Check.sameSize_equivalence`, `Check.sameFormat_equivalence`: to ask for the same is an equivalence of
  texts.
* `Request.value_withImage`, `Request.problems_withImage`: requests that ask for the same are built to the
  same device and have the same problems, save that each quotes its own text.
* `Request.same_of_value_volume`: texts from which disks of the same size and format are built ask for the
  same.
-/

namespace GuestDisks

/-- To be equal or to stand for one value is an equivalence, if nothing stands for two values. -/
theorem equivalence_of_unique {α β : Type} {R : α → β → Prop} (hR : ∀ {a x y}, R a x → R a y → x = y) :
    Equivalence fun a b => a = b ∨ ∃ x, R a x ∧ R b x where
  refl _ := .inl rfl
  symm h := h.imp Eq.symm fun ⟨x, ha, hb⟩ => ⟨x, hb, ha⟩
  trans := by
    rintro a b c (rfl | ⟨x, ha, hb⟩) (rfl | ⟨y, hb', hc⟩)
    · exact .inl rfl
    · exact .inr ⟨y, hb', hc⟩
    · exact .inr ⟨x, ha, hb⟩
    · obtain rfl := hR hb hb'
      exact .inr ⟨x, ha, hc⟩

/-- The problem without the text that it quotes. -/
def Problem.unquoted : Problem → Problem
  | .invalidValue field _ reason => .invalidValue field "" reason
  | p => p

namespace Check

variable {a b f g : String}

/-! ## Sizes -/

/-- Texts ask for the same size if they are equal or the grammar takes both and they read alike. -/
theorem sameSize_iff : sameSize a b = true ↔ a = b ∨
    ∃ kib, (Size.isWellFormed a = true ∧ Size.parse a = kib) ∧
      Size.isWellFormed b = true ∧ Size.parse b = kib := by
  by_cases h : a = b
  · simp [sameSize, h]
  · rw [sameSize_iff_of_ne h, or_iff_right h]
    constructor
    · rintro ⟨⟨ha, hb⟩, hparse⟩; exact ⟨_, ⟨ha, hparse⟩, hb, rfl⟩
    · rintro ⟨kib, ⟨ha, rfl⟩, hb, hparse⟩; exact ⟨⟨ha, hb⟩, hparse.symm⟩

/-- Writing the same size is an equivalence of texts. -/
theorem sameSize_equivalence : Equivalence fun a b => sameSize a b = true := by
  simp only [sameSize_iff]
  refine equivalence_of_unique (R := fun s kib => Size.isWellFormed s = true ∧ Size.parse s = kib) ?_
  rintro s x y ⟨-, rfl⟩ ⟨-, rfl⟩
  rfl

theorem parse_eq_of_sameSize (h : sameSize a b = true) : Size.parse a = Size.parse b := by
  rcases sameSize_iff.1 h with rfl | ⟨kib, ⟨-, ha⟩, -, hb⟩
  · rfl
  · exact ha.trans hb.symm

/-- What is left out is not the same size as anything that is supplied. -/
theorem eq_empty_iff_of_sameSize (h : sameSize a b = true) : a = "" ↔ b = "" := by
  rcases sameSize_iff.1 h with rfl | ⟨kib, ⟨ha, -⟩, hb, -⟩
  · rfl
  · have hne : ∀ s, Size.isWellFormed s = true → s ≠ "" := by
      rintro s hs rfl
      exact absurd hs (by decide)
    exact iff_of_false (hne a ha) (hne b hb)

/-- Of two texts that ask for the same size, both are accepted or both are refused. -/
theorem size_isOk_of_sameSize (h : sameSize a b = true) : (size a).isOk = (size b).isOk := by
  unfold size DiskSize.ofText
  rw [parse_eq_of_sameSize h]
  split <;> rfl

/-- Texts that are accepted as one size ask for the same size. -/
theorem sameSize_of_size {z : DiskSize} (ha : size a = .ok z) (hb : size b = .ok z) :
    sameSize a b = true := by
  by_cases h : a = b
  · exact sameSize_iff.2 (.inl h)
  · exact (sameSize_cases h).2 (.inl ⟨z, ha, hb⟩)

/-! ## Formats -/

theorem sameFormat_iff : sameFormat f g = true ↔ f = g ∨ ∃ x, format f = .ok x ∧ format g = .ok x := by
  unfold sameFormat
  cases hf : format f with
  | error p => simp
  | ok x =>
    cases hg : format g with
    | error q => simp
    | ok y =>
      simp only [beq_iff_eq, Except.ok.injEq, exists_eq_left']
      constructor
      · rintro rfl; exact .inr rfl
      · rintro (rfl | rfl)
        · exact Except.ok.inj (hf.symm.trans hg)
        · rfl

/-- Writing the same format is an equivalence of texts. -/
theorem sameFormat_equivalence : Equivalence fun f g => sameFormat f g = true := by
  simp only [sameFormat_iff]
  refine equivalence_of_unique (R := fun s x => format s = .ok x) ?_
  intro s x y hx hy
  exact Except.ok.inj (hx.symm.trans hy)

theorem format_eq_of_sameFormat (h : sameFormat f g = true) : format f = format g := by
  rcases sameFormat_iff.1 h with rfl | ⟨x, hf, hg⟩
  · rfl
  · exact hf.trans hg.symm

/-! ## Problems -/

/-- Without what it quotes, the problem of a refused field is that of any other text. -/
theorem rejected_unquoted {α : Type} (field value reason : String) (e : Except Problem α) :
    (rejected field value reason e).map Problem.unquoted = rejected field "" reason e := by
  unfold rejected
  split <;> rfl

theorem rejected_congr {α : Type} (field value reason : String) {e e' : Except Problem α}
    (h : e.isOk = e'.isOk) : rejected field value reason e = rejected field value reason e' := by
  unfold rejected
  rw [h]

end Check

/-- The fields with another size and another format of the image. -/
def Fields.withImage (f : Fields) (size format : String) : Fields :=
  { f with size := size, format := format }

theorem Fields.volumeProblems_withImage {fields : Fields} {a b f g : String}
    (hsize : Check.sameSize a b = true) (hformat : Check.sameFormat f g = true) :
    (fields.withImage a f).volumeProblems.map Problem.unquoted =
      (fields.withImage b g).volumeProblems.map Problem.unquoted := by
  unfold volumeProblems withImage
  simp only [List.map_append, apply_ite (List.map Problem.unquoted), Check.rejected_unquoted,
    Check.eq_empty_iff_of_sameSize hsize, Check.format_eq_of_sameFormat hformat]
  rw [Check.rejected_congr _ _ _ (Check.size_isOk_of_sameSize hsize)]

namespace Request

variable {r : Request} {a b f g : String}

/-- The request with another size and another format of the image. -/
def withImage (r : Request) (size format : String) : Request :=
  { r with fields := r.fields.withImage size format }

/-- Requests that ask for the same have the same problems, save that each quotes its own text. -/
theorem problems_withImage (hsize : Check.sameSize a b = true) (hformat : Check.sameFormat f g = true) :
    (r.withImage a f).problems.map Problem.unquoted = (r.withImage b g).problems.map Problem.unquoted := by
  obtain ⟨slot, kind, passthrough, fields⟩ := r
  -- only those of a managed disk can be about its size or its format
  cases kind with
  | disk =>
    cases passthrough with
    | false => exact Fields.volumeProblems_withImage hsize hformat
    | true => rfl
  | cdrom => rfl
  | cloudInit => rfl

/-- A managed disk does not change with the spelling of its size and format. -/
theorem value_volume_withImage (hsize : Check.sameSize a b = true) (hformat : Check.sameFormat f g = true) :
    (r.withImage a f).volume.value = (r.withImage b g).volume.value := by
  ext v
  rw [value_volume_eq_some_iff, value_volume_eq_some_iff]
  unfold withImage Fields.withImage
  simp only [Check.parse_eq_of_sameSize hsize, Check.format_eq_of_sameFormat hformat]
  rfl

/-- Requests that ask for the same are built to the same device. -/
theorem value_withImage (hsize : Check.sameSize a b = true) (hformat : Check.sameFormat f g = true) :
    (r.withImage a f).build.value = (r.withImage b g).build.value := by
  have hvolume := value_volume_withImage (r := r) hsize hformat
  obtain ⟨slot, kind, passthrough, fields⟩ := r
  cases kind with
  | disk =>
    cases passthrough with
    | false => exact congrArg (Option.map Variant.disk) hvolume
    | true => rfl
  | cdrom => rfl
  | cloudInit => rfl

/-- Managed disks of the same size and format are built for texts that ask for the same. -/
theorem same_of_value_volume {v w : Volume} (hv : (r.withImage a f).volume.value = some v)
    (hw : (r.withImage b g).volume.value = some w) (hsize : v.size = w.size) (hformat : v.format = w.format) :
    Check.sameSize a b = true ∧ Check.sameFormat f g = true := by
  obtain ⟨-, hasize, haformat, -⟩ := value_volume_eq_some_iff.1 hv
  obtain ⟨-, hbsize, hbformat, -⟩ := value_volume_eq_some_iff.1 hw
  rw [hsize] at hasize
  rw [hformat] at haformat
  exact ⟨Check.sameSize_of_size (Check.size_eq_ok_iff.2 hasize) (Check.size_eq_ok_iff.2 hbsize),
    Check.sameFormat_iff.2 (.inr ⟨_, haformat, hbformat⟩)⟩

/-- **Cosmetic changes are those that change nothing.** To ask for the same size is an equivalence of texts,
and so is to ask for the same format. Requests that ask for the same are built to the same device and have
the same problems, save that each quotes its own text. Conversely, managed disks that differ in the texts
for size and format only, and are built to equal devices, ask for the same. -/
theorem cosmetic_iff_same :
    Equivalence (fun a b => Check.sameSize a b = true) ∧
    Equivalence (fun f g => Check.sameFormat f g = true) ∧
    (∀ (r : Request) (a b f g : String), Check.sameSize a b = true → Check.sameFormat f g = true →
      (r.withImage a f).build.value = (r.withImage b g).build.value ∧
      (r.withImage a f).build.problems.map Problem.unquoted =
        (r.withImage b g).build.problems.map Problem.unquoted) ∧
    ∀ (r : Request) (a b f g : String) (v w : Variant), r.kind = .disk → r.passthrough = false →
      (r.withImage a f).build.value = some v → (r.withImage b g).build.value = some w → (v == w) = true →
      Check.sameSize a b = true ∧ Check.sameFormat f g = true := by
  refine ⟨Check.sameSize_equivalence, Check.sameFormat_equivalence, ?sound, ?complete⟩
  case sound =>
    intro r a b f g hsize hformat
    rw [problems_build, problems_build]
    exact ⟨value_withImage hsize hformat, problems_withImage hsize hformat⟩
  case complete =>
    rintro ⟨slot, kind, passthrough, fields⟩ a b f g _ _ rfl rfl hbuild hbuild' hsame
    obtain ⟨v, hv, rfl⟩ := Option.map_eq_some_iff.1 hbuild
    obtain ⟨w, hw, rfl⟩ := Option.map_eq_some_iff.1 hbuild'
    obtain ⟨-, hsize, hformat, -⟩ := Variant.beq_disk_iff.1 hsame
    exact same_of_value_volume hv hw hsize hformat

/-- A gibibyte in two units, with the default format left out and given, and two sizes that are out of
range, for which only the quoted texts differ. -/
theorem cosmetic_iff_same_gibibyte :
    let r : Request := ⟨⟨.scsi, 0, by decide⟩, .disk, false, { storage := "local" }⟩
    let v : Variant := .disk ⟨"local", ⟨1048576⟩, .raw, {}⟩
    ((Check.sameSize "1024M" "1G" = true ∧ Check.sameFormat "" "raw" = true) ∧
      (r.withImage "1024M" "").build.value = (r.withImage "1G" "raw").build.value) ∧
    (Check.sameSize "20000000000T" "30000000000T" = true ∧
      (r.withImage "20000000000T" "").build.problems ≠ (r.withImage "30000000000T" "raw").build.problems ∧
      (r.withImage "20000000000T" "").build.problems.map Problem.unquoted =
        (r.withImage "30000000000T" "raw").build.problems.map Problem.unquoted) ∧
    (r.withImage "1048576K" "").build.value = some v ∧ (r.withImage "1" "raw").build.value = some v ∧
      Check.sameSize "1048576K" "1" = true := by
  intro r v
  obtain ⟨-, -, hsound, hcomplete⟩ := cosmetic_iff_same
  have hformat : Check.sameFormat "" "raw" = true := by decide +kernel
  have hsize : Check.sameSize "1024M" "1G" = true := by decide +kernel
  have hunread : Check.sameSize "20000000000T" "30000000000T" = true := by decide +kernel
  have hv : (r.withImage "1048576K" "").build.value = some v := by decide +kernel
  have hw : (r.withImage "1" "raw").build.value = some v := by decide +kernel
  refine ⟨⟨⟨hsize, hformat⟩, (hsound r _ _ _ _ hsize hformat).1⟩,
    ⟨hunread, by decide +kernel, (hsound r _ _ _ _ hunread hformat).2⟩, hv, hw, ?_⟩
  exact (hcomplete r _ _ _ _ v v rfl rfl hv hw (by decide +kernel)).1

/-- Other devices have no use for a format, so they are warned of one that is given, though it is the one
that is meant when none is. -/
example :
    let r : Request := ⟨⟨.ide, 2, by decide⟩, .cdrom, false, {}⟩
    (r.withImage "" "").build.findings = [] ∧
      (r.withImage "" "raw").build.findings = [.warning (.fieldIgnored "format" "cdrom")] := by
  decide +kernel

end Request

end GuestDisks
