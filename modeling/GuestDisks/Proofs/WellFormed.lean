import GuestDisks.Device.Variant
import GuestDisks.Slot.Bus

/-!
# Well-formed variants

What a variant must be like to stand in a slot of a given bus: names are given, sizes are positive,
limits are finite and not below zero, serial numbers and world wide names have their form, and
nothing is asked of a bus that the bus does not support. The predicates say this of the values
themselves and do not mention how documents are read.
-/

namespace GuestDisks

/-- A serial number: one to sixty letters, digits, hyphens and underscores. -/
def IsSerialNumber (s : String) : Prop :=
  1 ≤ s.toList.length ∧ s.toList.length ≤ 60 ∧
    ∀ c ∈ s.toList, c.isAlphanum = true ∨ c = '_' ∨ c = '-'

instance (s : String) : Decidable (IsSerialNumber s) :=
  haveI := List.decidableBAll (fun c : Char => c.isAlphanum = true ∨ c = '_' ∨ c = '-') s.toList
  inferInstanceAs (Decidable (_ ∧ _ ∧ _))

/-- A hexadecimal digit of either case. -/
def IsHexDigit (c : Char) : Prop :=
  c.isDigit = true ∨ ('a' ≤ c ∧ c ≤ 'f') ∨ ('A' ≤ c ∧ c ≤ 'F')

instance (c : Char) : Decidable (IsHexDigit c) := by unfold IsHexDigit; infer_instance

/-- A world wide name: `0x` and sixteen hexadecimal digits. -/
def IsWorldWideName (s : String) : Prop :=
  s.toList.take 2 = ['0', 'x'] ∧ s.toList.length = 18 ∧ ∀ c ∈ s.toList.drop 2, IsHexDigit c

instance (s : String) : Decidable (IsWorldWideName s) :=
  haveI := List.decidableBAll IsHexDigit (s.toList.drop 2)
  inferInstanceAs (Decidable (_ ∧ _ ∧ _))

/-- A number that can bound a throughput: finite and not below zero. -/
def Binary64.IsBound (x : Binary64) : Prop := x.isFinite = true ∧ x.isBelowZero = false

instance (x : Binary64) : Decidable x.IsBound := by unfold Binary64.IsBound; infer_instance

/-- The four throughputs of a disk's limits are bounds. Rates always are. -/
def Limits.AreBounds (l : Limits) : Prop :=
  l.read.mbps.burst.IsBound ∧ l.read.mbps.concurrent.IsBound ∧
    l.write.mbps.burst.IsBound ∧ l.write.mbps.concurrent.IsBound

instance (l : Limits) : Decidable l.AreBounds := by unfold Limits.AreBounds; infer_instance

/-- Options that a disk on a bus may have. -/
structure DiskOptions.WellFormedOn (bus : Bus) (o : DiskOptions) : Prop where
  serial : ∀ s ∈ o.serial, IsSerialNumber s
  wwn : ∀ w ∈ o.wwn, IsWorldWideName w
  emulateSsd : o.emulateSsd = true → bus.features.emulateSsd = true
  ioThread : o.ioThread = true → bus.features.ioThread = true
  readOnly : o.readOnly = true → bus.features.readOnly = true
  limits : o.limits.AreBounds

/-- Well-formedness of options, condition by condition. -/
theorem DiskOptions.wellFormedOn_iff {bus : Bus} {o : DiskOptions} : o.WellFormedOn bus ↔
    (∀ s ∈ o.serial, IsSerialNumber s) ∧ (∀ w ∈ o.wwn, IsWorldWideName w) ∧
      (o.emulateSsd = true → bus.features.emulateSsd = true) ∧
      (o.ioThread = true → bus.features.ioThread = true) ∧
      (o.readOnly = true → bus.features.readOnly = true) ∧ o.limits.AreBounds :=
  ⟨fun ⟨h1, h2, h3, h4, h5, h6⟩ => ⟨h1, h2, h3, h4, h5, h6⟩,
    fun ⟨h1, h2, h3, h4, h5, h6⟩ => ⟨h1, h2, h3, h4, h5, h6⟩⟩

instance (bus : Bus) (o : DiskOptions) : Decidable (o.WellFormedOn bus) :=
  decidable_of_iff _ DiskOptions.wellFormedOn_iff.symm

/-- **A variant is well formed on a bus.** The markers and a drive without an image always are. -/
def Variant.WellFormedOn (bus : Bus) : Variant → Prop
  | .disk v => v.storage ≠ "" ∧ 0 < v.size.kib ∧ v.options.WellFormedOn bus
  | .passthrough d => d.file ≠ "" ∧ d.options.WellFormedOn bus
  | .cdrom (.iso storage file) => storage ≠ "" ∧ ':' ∉ storage.toList ∧ file ≠ ""
  | .cdrom .none | .cdrom .passthrough => True
  | .cloudInit storage => storage ≠ "" ∧ bus ≠ .virtio
  | .delete | .unchanged => True

instance (bus : Bus) (v : Variant) : Decidable (v.WellFormedOn bus) := by
  rcases v with _ | _ | (_ | _ | _) | _ | _ | _ <;> unfold Variant.WellFormedOn <;> infer_instance

end GuestDisks
