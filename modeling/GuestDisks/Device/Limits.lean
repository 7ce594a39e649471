import GuestDisks.Data.Scalar

/-!
# Throttle limits

How much a guest may read from a disk and write to it. Limits come in two forms. `Limits` groups
them by direction and by unit; `FlatLimits` has one field for each of the ten keys that users
write. The forms convert field by field (`FlatLimits.grouped`, `Limits.flat`), and zero means that
there is no limit.
-/

namespace GuestDisks

/-- Throughput limits, in megabytes per second. -/
structure Throughput where
  burst : Binary64 := .zero
  concurrent : Binary64 := .zero
  deriving DecidableEq, BEq

/-- Limits on operations per second. -/
structure Rate where
  burst : UInt32 := 0
  /-- How long the burst rate may last, in seconds. -/
  burstLength : UInt32 := 0
  concurrent : UInt32 := 0
  deriving DecidableEq, BEq

/-- The limits of one direction. -/
structure DirectionLimits where
  mbps : Throughput := {}
  iops : Rate := {}
  deriving DecidableEq, BEq

/-- The limits of a disk. -/
structure Limits where
  read : DirectionLimits := {}
  write : DirectionLimits := {}
  deriving DecidableEq, BEq

/-- Whether nothing is limited. -/
def Limits.isUnlimited (limits : Limits) : Bool := limits == {}

/-- The limits of a disk under the keys that users write, with rates of type `ρ`. -/
structure FlatLimits (ρ : Type) where
  mbpsReadBurst : Binary64
  mbpsReadConcurrent : Binary64
  mbpsWriteBurst : Binary64
  mbpsWriteConcurrent : Binary64
  iopsReadBurst : ρ
  iopsReadBurstLength : ρ
  iopsReadConcurrent : ρ
  iopsWriteBurst : ρ
  iopsWriteBurstLength : ρ
  iopsWriteConcurrent : ρ
  deriving DecidableEq, BEq

namespace FlatLimits

variable {ρ σ : Type}

/-- No limits, where `zero` is the rate that means none. -/
def unlimited (zero : ρ) : FlatLimits ρ :=
  ⟨.zero, .zero, .zero, .zero, zero, zero, zero, zero, zero, zero⟩

/-- The throughput keys and their values. -/
def throughputs (f : FlatLimits ρ) : List (String × Binary64) :=
  [("mbps_r_burst", f.mbpsReadBurst), ("mbps_r_concurrent", f.mbpsReadConcurrent),
    ("mbps_wr_burst", f.mbpsWriteBurst), ("mbps_wr_concurrent", f.mbpsWriteConcurrent)]

/-- The rate keys and their values. -/
def rates (f : FlatLimits ρ) : List (String × ρ) :=
  [("iops_r_burst", f.iopsReadBurst), ("iops_r_burst_length", f.iopsReadBurstLength),
    ("iops_r_concurrent", f.iopsReadConcurrent), ("iops_wr_burst", f.iopsWriteBurst),
    ("iops_wr_burst_length", f.iopsWriteBurstLength),
    ("iops_wr_concurrent", f.iopsWriteConcurrent)]

/-- Changes the rates, each by itself, with the throughputs as they are. -/
def mapRates (g : ρ → σ) (f : FlatLimits ρ) : FlatLimits σ where
  mbpsReadBurst := f.mbpsReadBurst
  mbpsReadConcurrent := f.mbpsReadConcurrent
  mbpsWriteBurst := f.mbpsWriteBurst
  mbpsWriteConcurrent := f.mbpsWriteConcurrent
  iopsReadBurst := g f.iopsReadBurst
  iopsReadBurstLength := g f.iopsReadBurstLength
  iopsReadConcurrent := g f.iopsReadConcurrent
  iopsWriteBurst := g f.iopsWriteBurst
  iopsWriteBurstLength := g f.iopsWriteBurstLength
  iopsWriteConcurrent := g f.iopsWriteConcurrent

/-- The rates as integers. -/
def widened (f : FlatLimits UInt32) : FlatLimits Int := f.mapRates fun n => (n.toNat : Int)

/-- The keys with their values, throughputs before rates. -/
def entries (f : FlatLimits Int) : List (String × Data.Scalar) :=
  f.throughputs.map (fun e => (e.1, .real e.2)) ++ f.rates.map (fun e => (e.1, .integer e.2))

/-- The limits by direction and unit. -/
def grouped (f : FlatLimits UInt32) : Limits where
  read.mbps := ⟨f.mbpsReadBurst, f.mbpsReadConcurrent⟩
  read.iops := ⟨f.iopsReadBurst, f.iopsReadBurstLength, f.iopsReadConcurrent⟩
  write.mbps := ⟨f.mbpsWriteBurst, f.mbpsWriteConcurrent⟩
  write.iops := ⟨f.iopsWriteBurst, f.iopsWriteBurstLength, f.iopsWriteConcurrent⟩

end FlatLimits

/-- The limits under the keys that users write. -/
def Limits.flat (limits : Limits) : FlatLimits UInt32 where
  mbpsReadBurst := limits.read.mbps.burst
  mbpsReadConcurrent := limits.read.mbps.concurrent
  mbpsWriteBurst := limits.write.mbps.burst
  mbpsWriteConcurrent := limits.write.mbps.concurrent
  iopsReadBurst := limits.read.iops.burst
  iopsReadBurstLength := limits.read.iops.burstLength
  iopsReadConcurrent := limits.read.iops.concurrent
  iopsWriteBurst := limits.write.iops.burst
  iopsWriteBurstLength := limits.write.iops.burstLength
  iopsWriteConcurrent := limits.write.iops.concurrent

end GuestDisks
