import GuestDisks.Device.Limits

/-!
# Disk options

Image formats, cache modes and I/O engines, each with the name that documents use for it, and the
options that managed disks and host disks share.
-/

namespace GuestDisks

/-- Looks a name up among values with labels. -/
def ofLabel? {β : Type} (label : β → String) (all : List β) (name : String) : Option β :=
  all.find? fun b => label b == name

/-- The format of a managed disk's image. -/
inductive ImageFormat
  | raw
  | cow
  | qcow
  | qed
  | qcow2
  | vmdk
  | cloop
  deriving DecidableEq

namespace ImageFormat

def all : List ImageFormat := [raw, cow, qcow, qed, qcow2, vmdk, cloop]

def label : ImageFormat → String
  | raw => "raw"
  | cow => "cow"
  | qcow => "qcow"
  | qed => "qed"
  | qcow2 => "qcow2"
  | vmdk => "vmdk"
  | cloop => "cloop"

end ImageFormat

/-- How the host caches a disk's pages. -/
inductive CacheMode
  | none
  | directSync
  /-- Flushes are not waited for. -/
  | neverFlushed
  | writeBack
  | writeThrough
  deriving DecidableEq

namespace CacheMode

def all : List CacheMode := [none, directSync, neverFlushed, writeBack, writeThrough]

def label : CacheMode → String
  | none => "none"
  | directSync => "directsync"
  | neverFlushed => "unsafe"
  | writeBack => "writeback"
  | writeThrough => "writethrough"

end CacheMode

/-- The host's engine for asynchronous input and output. -/
inductive IoEngine
  | native
  | threads
  | ioUring
  deriving DecidableEq

namespace IoEngine

def all : List IoEngine := [native, threads, ioUring]

def label : IoEngine → String
  | native => "native"
  | threads => "threads"
  | ioUring => "io_uring"

end IoEngine

/-- The options that managed disks and host disks share. -/
structure DiskOptions where
  cache : Option CacheMode := none
  engine : Option IoEngine := none
  discard : Bool := false
  replicate : Bool := false
  /-- Whether backups include the disk. -/
  backup : Bool := true
  serial : Option String := none
  /-- The world wide name. -/
  wwn : Option String := none
  emulateSsd : Bool := false
  ioThread : Bool := false
  readOnly : Bool := false
  limits : Limits := {}
  deriving DecidableEq, BEq

end GuestDisks
