import GuestDisks.Proofs.WellFormed

/-!
# Agreement

Variants are compared as users see them: `-0.0` agrees with `0.0`, and what is not a number agrees
with nothing. Of well-formed variants agreement keeps apart no more than that: each agrees with
itself (`Variant.WellFormedOn.beq_self`), and what agrees with it is well formed too
(`Variant.WellFormedOn.of_beq`).
-/

namespace GuestDisks

/-! ## Numbers -/

/-- Two doubles are equal if both are numbers and they are the same or both zero, whatever their signs. -/
theorem Binary64.beq_eq (x y : Binary64) :
    (x == y) = (!x.isNaN && !y.isNaN && (decide (x = y) || (x.isZero && y.isZero))) := rfl

theorem Binary64.beq_self {x : Binary64} (h : x.isNaN = false) : (x == x) = true := by
  rw [beq_eq, h]; simp

theorem Binary64.isNaN_of_isFinite {x : Binary64} (h : x.isFinite = true) : x.isNaN = false := by
  unfold isFinite at h
  unfold isNaN
  simp only [bne_iff_ne] at h
  simp [h]

theorem Binary64.isBound_of_isZero {x : Binary64} (h : x.isZero = true) : x.IsBound := by
  have hf : x.isFinite = true := by
    unfold isZero at h
    unfold isFinite
    simp only [Bool.and_eq_true, beq_iff_eq] at h
    rw [h.1]; decide
  exact ⟨hf, by simp [isBelowZero, h]⟩

theorem Binary64.IsBound.beq_self {x : Binary64} (h : x.IsBound) : (x == x) = true :=
  Binary64.beq_self (isNaN_of_isFinite h.1)

/-- What equals a bound is one, so limits that agree are well formed alike. -/
theorem Binary64.IsBound.of_beq {x y : Binary64} (hx : x.IsBound) (h : (x == y) = true) : y.IsBound := by
  rw [beq_eq] at h
  simp only [Bool.and_eq_true, Bool.or_eq_true, decide_eq_true_eq] at h
  rcases h.2 with rfl | hz
  · exact hx
  · exact isBound_of_isZero hz.2

/-! ## Limits and options -/

theorem Rate.beq_self (r : Rate) : (r == r) = true := by
  have h : (r == r) = (r.burst == r.burst && (r.burstLength == r.burstLength &&
    r.concurrent == r.concurrent)) := rfl
  simp [h]

/-- Limits agree if each direction does, throughputs as numbers and rates outright. -/
theorem Limits.beq_iff {l m : Limits} : (l == m) = true ↔
    ((l.read.mbps.burst == m.read.mbps.burst) = true ∧
      (l.read.mbps.concurrent == m.read.mbps.concurrent) = true) ∧
    (l.read.iops == m.read.iops) = true ∧
    ((l.write.mbps.burst == m.write.mbps.burst) = true ∧
      (l.write.mbps.concurrent == m.write.mbps.concurrent) = true) ∧
    (l.write.iops == m.write.iops) = true := by
  have h : (l == m) =
      (((l.read.mbps.burst == m.read.mbps.burst && l.read.mbps.concurrent == m.read.mbps.concurrent) &&
        l.read.iops == m.read.iops) &&
      ((l.write.mbps.burst == m.write.mbps.burst && l.write.mbps.concurrent == m.write.mbps.concurrent) &&
        l.write.iops == m.write.iops)) := rfl
  simp only [h, Bool.and_eq_true, and_assoc]

/-- Limits that are bounds equal themselves, as none of them is undefined. -/
theorem Limits.AreBounds.beq_self {l : Limits} (h : l.AreBounds) : (l == l) = true := by
  obtain ⟨h1, h2, h3, h4⟩ := h
  rw [Limits.beq_iff]
  exact ⟨⟨h1.beq_self, h2.beq_self⟩, Rate.beq_self _, ⟨h3.beq_self, h4.beq_self⟩, Rate.beq_self _⟩

theorem Limits.AreBounds.of_beq {l m : Limits} (hl : l.AreBounds) (h : (l == m) = true) :
    m.AreBounds := by
  obtain ⟨⟨h1, h2⟩, -, ⟨h3, h4⟩, -⟩ := Limits.beq_iff.1 h
  exact ⟨hl.1.of_beq h1, hl.2.1.of_beq h2, hl.2.2.1.of_beq h3, hl.2.2.2.of_beq h4⟩

/-- Options agree when their limits do and they are the same otherwise. -/
theorem DiskOptions.beq_iff {o p : DiskOptions} : (o == p) = true ↔
    { o with limits := p.limits } = p ∧ (o.limits == p.limits) = true := by
  have h : (o == p) = (o.cache == p.cache && (o.engine == p.engine && (o.discard == p.discard &&
      (o.replicate == p.replicate && (o.backup == p.backup && (o.serial == p.serial &&
      (o.wwn == p.wwn && (o.emulateSsd == p.emulateSsd && (o.ioThread == p.ioThread &&
      (o.readOnly == p.readOnly && o.limits == p.limits)))))))))) := rfl
  obtain ⟨_, _, _, _, _, _, _, _, _, _, _⟩ := o
  obtain ⟨_, _, _, _, _, _, _, _, _, _, _⟩ := p
  simp only [h, Bool.and_eq_true, beq_iff_eq, DiskOptions.mk.injEq, and_true, and_assoc]

theorem DiskOptions.WellFormedOn.beq_self {bus : Bus} {o : DiskOptions} (h : o.WellFormedOn bus) :
    (o == o) = true :=
  DiskOptions.beq_iff.2 ⟨rfl, h.limits.beq_self⟩

/-- Options that agree with well-formed ones are well formed. -/
theorem DiskOptions.WellFormedOn.of_beq {bus : Bus} {o p : DiskOptions} (ho : o.WellFormedOn bus)
    (h : (o == p) = true) : p.WellFormedOn bus := by
  obtain ⟨he, hl⟩ := DiskOptions.beq_iff.1 h
  rw [← he]
  exact ⟨ho.serial, ho.wwn, ho.emulateSsd, ho.ioThread, ho.readOnly, ho.limits.of_beq hl⟩

/-! ## Variants -/

/-- Managed disks agree if their options do and the rest is the same. -/
theorem Variant.beq_disk_iff {v w : Volume} : (Variant.disk v == .disk w) = true ↔
    v.storage = w.storage ∧ v.size = w.size ∧ v.format = w.format ∧ (v.options == w.options) = true := by
  have h : (Variant.disk v == .disk w) = (v.storage == w.storage && (v.size == w.size &&
    (v.format == w.format && v.options == w.options))) := rfl
  simp only [h, Bool.and_eq_true, beq_iff_eq]

/-- So do host disks. -/
theorem Variant.beq_passthrough_iff {d e : HostDisk} :
    (Variant.passthrough d == .passthrough e) = true ↔ d.file = e.file ∧ (d.options == e.options) = true := by
  have h : (Variant.passthrough d == .passthrough e) = (d.file == e.file && d.options == e.options) := rfl
  simp only [h, Bool.and_eq_true, beq_iff_eq]

/-- Variants that agree are disks of one sort, or equal. -/
theorem Variant.beq_cases {v w : Variant} (h : (v == w) = true) :
    (∃ x y, v = .disk x ∧ w = .disk y) ∨ (∃ x y, v = .passthrough x ∧ w = .passthrough y) ∨ v = w := by
  cases v <;> cases w <;> first | cases h | skip
  · exact .inl ⟨_, _, rfl, rfl⟩
  · exact .inr (.inl ⟨_, _, rfl, rfl⟩)
  · exact .inr (.inr (congrArg Variant.cdrom (of_decide_eq_true h)))
  · exact .inr (.inr (congrArg Variant.cloudInit (of_decide_eq_true h)))
  · exact .inr (.inr rfl)
  · exact .inr (.inr rfl)

/-- A well-formed variant equals itself. One with an undefined throughput would not. -/
theorem Variant.WellFormedOn.beq_self {bus : Bus} {v : Variant} (h : v.WellFormedOn bus) :
    (v == v) = true := by
  cases v with
  | disk v => exact beq_disk_iff.2 ⟨rfl, rfl, rfl, h.2.2.beq_self⟩
  | passthrough d => exact beq_passthrough_iff.2 ⟨rfl, h.2.beq_self⟩
  | cdrom m => exact decide_eq_true rfl
  | cloudInit storage => exact decide_eq_true rfl
  | delete => rfl
  | unchanged => rfl

/-- **What agrees with a well-formed variant is well formed.** -/
theorem Variant.WellFormedOn.of_beq {bus : Bus} {v w : Variant} (hv : v.WellFormedOn bus)
    (h : (v == w) = true) : w.WellFormedOn bus := by
  rcases beq_cases h with ⟨x, y, rfl, rfl⟩ | ⟨x, y, rfl, rfl⟩ | rfl
  · obtain ⟨h1, h2, -, h4⟩ := beq_disk_iff.1 h
    exact ⟨h1 ▸ hv.1, h2 ▸ hv.2.1, hv.2.2.of_beq h4⟩
  · obtain ⟨h1, h2⟩ := beq_passthrough_iff.1 h
    exact ⟨h1 ▸ hv.1, hv.2.of_beq h2⟩
  · exact hv

end GuestDisks
