import GuestDisks.Document.Expanded

/-!
# The sub-tables of a slot table

A slot table says what it asks for by its sub-tables, one for each sort of device. They are read from
one list, in which all have one form (`devices`). Here it is said of the sub-tables themselves what they
ask for in a slot (`AsksFor`) and how many there are (`count`), so that statements about slot tables need
not go through that list; it holds exactly what the sub-tables ask for (`asksFor_iff`), once each
(`length_devices`).
-/

namespace GuestDisks

/-! ## What a sub-table asks for -/

/-- A managed disk with the values given. -/
def DiskBlock.on (s : Slot) (b : DiskBlock) : Request where
  slot := s
  kind := .disk
  passthrough := false
  fields := { storage := b.storage, size := b.size, format := b.format, settings := b.settings }

/-- A disk that is the host's file. -/
def HostDiskBlock.on (s : Slot) (b : HostDiskBlock) : Request where
  slot := s
  kind := .disk
  passthrough := true
  fields := { diskFile := b.file, settings := b.settings }

/-- A CD drive with the image given, or the host's drive. -/
def CdromBlock.on (s : Slot) (b : CdromBlock) : Request where
  slot := s
  kind := .cdrom
  passthrough := b.passthrough
  fields := { iso := b.iso }

/-- A cloud-init drive on the storage given. -/
def CloudInitBlock.on (s : Slot) (b : CloudInitBlock) : Request where
  slot := s
  kind := .cloudInit
  passthrough := false
  fields := { storage := b.storage }

/-- What an element of the list of devices asks for in a slot. -/
def BlockRequest.on (s : Slot) (d : BlockRequest) : Request := ⟨s, d.block.kind, d.passthrough, d.fields⟩

namespace SlotTable

/-- **A table asks for a device in a slot**: one of its sub-tables does. -/
inductive AsksFor (t : SlotTable) (s : Slot) : Request → Prop
  | disk {b : DiskBlock} (h : t.disk = some b) : AsksFor t s (b.on s)
  | passthrough {b : HostDiskBlock} (h : t.passthrough = some b) : AsksFor t s (b.on s)
  | cdrom {b : CdromBlock} (h : t.cdrom = some b) : AsksFor t s (b.on s)
  | cloudInit {b : CloudInitBlock} (h : t.cloudInit = some b) : AsksFor t s (b.on s)

/-- How many sub-tables a table has. -/
def count (t : SlotTable) : Nat :=
  t.disk.isSome.toNat + t.passthrough.isSome.toNat + t.cdrom.isSome.toNat + t.cloudInit.isSome.toNat

variable {t : SlotTable} {d : BlockRequest} {s : Slot} {r : Request}

/-! ## The list of devices -/

/-- What holds of all devices that a table asks for holds of each sub-table. -/
theorem forall_devices_iff {p : BlockRequest → Prop} : (∀ d ∈ t.devices, p d) ↔
    (∀ b ∈ t.disk, p ⟨.disk, false,
      { storage := b.storage, size := b.size, format := b.format, settings := b.settings }, b.unknown⟩) ∧
    (∀ b ∈ t.passthrough, p ⟨.passthrough, true, { diskFile := b.file, settings := b.settings }, b.unknown⟩) ∧
    (∀ b ∈ t.cdrom, p ⟨.cdrom, b.passthrough, { iso := b.iso }, b.unknown⟩) ∧
    ∀ b ∈ t.cloudInit, p ⟨.cloudInit, false, { storage := b.storage }, b.unknown⟩ := by
  unfold devices
  simp only [List.forall_mem_append, List.forall_mem_map, Option.mem_toList, Option.mem_def, and_assoc]

/-- **The list of devices holds what the sub-tables ask for**, and nothing else. -/
theorem asksFor_iff : t.AsksFor s r ↔ ∃ d ∈ t.devices, d.on s = r := by
  constructor
  · have hall : ∀ d ∈ t.devices, ∃ d' ∈ t.devices, d'.on s = d.on s := fun d hd => ⟨d, hd, rfl⟩
    obtain ⟨hdisk, hpassthrough, hcdrom, hcloudInit⟩ := forall_devices_iff.1 hall
    intro h
    cases h with
    | disk h => exact hdisk _ h
    | passthrough h => exact hpassthrough _ h
    | cdrom h => exact hcdrom _ h
    | cloudInit h => exact hcloudInit _ h
  · have hall : ∀ d ∈ t.devices, t.AsksFor s (d.on s) := forall_devices_iff.2
      ⟨fun _ h => .disk h, fun _ h => .passthrough h, fun _ h => .cdrom h, fun _ h => .cloudInit h⟩
    rintro ⟨d, hd, rfl⟩
    exact hall d hd

/-- Each sub-table is in the list once. -/
theorem length_devices (t : SlotTable) : t.devices.length = t.count := by
  have htoList : ∀ {β : Type} (o : Option β), o.toList.length = o.isSome.toNat := fun o => by cases o <;> rfl
  unfold devices count
  simp only [List.length_append, List.length_map, htoList]

theorem devices_eq_nil_iff : t.devices = [] ↔ t.count = 0 := by
  rw [← length_devices, List.length_eq_zero_iff]

/-- Where there is one sub-table, it is the list. -/
theorem exists_devices_eq (h : t.count = 1) : ∃ d, t.devices = [d] := by
  rwa [← length_devices, List.length_eq_one_iff] at h

theorem count_of_single (hd : t.devices = [d]) : t.count = 1 := by
  rw [← length_devices, hd]; rfl

/-- A table with one sub-table asks for one device. -/
theorem asksFor_of_single (hd : t.devices = [d]) : t.AsksFor s r ↔ r = d.on s := by
  rw [asksFor_iff, hd]
  simp [eq_comm]

end SlotTable

end GuestDisks
