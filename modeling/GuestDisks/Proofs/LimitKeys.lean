import GuestDisks.Proofs.Problems

/-!
# Limits under their keys

The key of a limit says which one it is: its unit, its direction and its sort (`Limits.namedThroughputs`,
`Limits.namedRates`). Limits are checked key by key, and accepted ones are those that the keys name. That
limits come back from their keys would not show this, for keys that were mixed up both ways would come
back as well; so the names of the keys are put together from the limits they are for.

* `grouped_flat`, `flat_grouped`: limits by direction and limits under keys are two forms of the same.
* `exists_limits_iff`, `firstBad_of_limits`: limits are accepted if each value may be a limit, and are
  refused because of the first of the ten keys whose value may not.
* `limits_routed`: each key is for the limit that it names, with its value as it is, and the accepted
  limits are written back under the same keys.
-/

namespace GuestDisks

/-- The throughput limits of one direction under the keys that name them. -/
def DirectionLimits.namedThroughputs (direction : String) (d : DirectionLimits) :
    List (String × Binary64) :=
  [("mbps_" ++ direction ++ "_burst", d.mbps.burst),
    ("mbps_" ++ direction ++ "_concurrent", d.mbps.concurrent)]

/-- The rate limits of one direction under the keys that name them. -/
def DirectionLimits.namedRates (direction : String) (d : DirectionLimits) : List (String × UInt32) :=
  [("iops_" ++ direction ++ "_burst", d.iops.burst),
    ("iops_" ++ direction ++ "_burst_length", d.iops.burstLength),
    ("iops_" ++ direction ++ "_concurrent", d.iops.concurrent)]

namespace Limits

/-- The throughput limits of a disk under the keys that name them. -/
def namedThroughputs (l : Limits) : List (String × Binary64) :=
  l.read.namedThroughputs "r" ++ l.write.namedThroughputs "wr"

/-- The rate limits of a disk under the keys that name them. -/
def namedRates (l : Limits) : List (String × UInt32) :=
  l.read.namedRates "r" ++ l.write.namedRates "wr"

/-! ## The two forms of limits -/

/-- Limits that are listed under their keys are grouped by direction again as they were. -/
theorem grouped_flat (l : Limits) : l.flat.grouped = l := rfl

theorem throughputs_flat (l : Limits) : l.flat.throughputs = l.namedThroughputs := rfl

theorem rates_flat (l : Limits) : l.flat.rates = l.namedRates := rfl

end Limits

/-- A number of operations per second that can be a limit: one that fits 32 bits. -/
def IsRate (n : Int) : Prop := 0 ≤ n ∧ n ≤ 4294967295

instance (n : Int) : Decidable (IsRate n) := inferInstanceAs (Decidable (_ ∧ _))

/-- A rate can be a limit exactly if it fits a 32-bit word. -/
theorem isRate_iff {n : Int} : IsRate n ↔ 0 ≤ n ∧ n < UInt32.size := by
  unfold IsRate
  rw [show ((UInt32.size : Nat) : Int) = 4294967295 + 1 from rfl, Int.lt_add_one_iff]

namespace FlatLimits

theorem flat_grouped (f : FlatLimits UInt32) : f.grouped.flat = f := rfl

theorem rates_widened (f : FlatLimits UInt32) :
    f.widened.rates = f.rates.map fun e => (e.1, (e.2.toNat : Int)) := rfl

/-- The ten keys in the order of their checks, each with whether its value can be a limit. -/
def verdicts (f : FlatLimits Int) : List (String × Bool) :=
  [("mbps_r_burst", decide f.mbpsReadBurst.IsBound),
    ("mbps_r_concurrent", decide f.mbpsReadConcurrent.IsBound),
    ("mbps_wr_burst", decide f.mbpsWriteBurst.IsBound),
    ("mbps_wr_concurrent", decide f.mbpsWriteConcurrent.IsBound),
    ("iops_r_burst", decide (IsRate f.iopsReadBurst)),
    ("iops_r_burst_length", decide (IsRate f.iopsReadBurstLength)),
    ("iops_r_concurrent", decide (IsRate f.iopsReadConcurrent)),
    ("iops_wr_burst", decide (IsRate f.iopsWriteBurst)),
    ("iops_wr_burst_length", decide (IsRate f.iopsWriteBurstLength)),
    ("iops_wr_concurrent", decide (IsRate f.iopsWriteConcurrent))]

theorem verdicts_eq (f : FlatLimits Int) : f.verdicts =
    f.throughputs.map (fun e => (e.1, decide e.2.IsBound)) ++
      f.rates.map fun e => (e.1, decide (IsRate e.2)) := rfl

/-- The problems are those of the keys whose verdict is bad, each with its own text. -/
theorem problems_eq (f : FlatLimits Int) : f.problems =
    ((f.throughputs.filter fun e => !decide e.2.IsBound).map fun e =>
      .invalidValue e.1 (Check.reals.write e.2) "expected a non-negative number") ++
    (f.rates.filter fun e => !decide (IsRate e.2)).map fun e =>
      .invalidValue e.1 (Decimal.ofInt e.2) "expected an integer from 0 to 4294967295" := by
  unfold problems
  simp only [isRate_iff]

/-- The first problem is that of the first key whose value can be no limit. -/
theorem find?_verdicts_of_problems {f : FlatLimits Int} {p : Problem} (h : f.problems.head? = some p) :
    ∃ key value reason, p = .invalidValue key value reason ∧
      f.verdicts.find? (fun e => !e.2) = some (key, false) := by
  rw [problems_eq, List.head?_append, List.head?_map, List.head?_map, List.head?_filter,
    List.head?_filter] at h
  rw [verdicts_eq, List.find?_append, List.find?_map, List.find?_map]
  simp only [Function.comp_def]
  -- the same search is made for the problem and for the key, first among the throughputs
  cases hthroughput : f.throughputs.find? fun e => !decide e.2.IsBound with
  | some e =>
    rw [hthroughput] at h
    cases h
    have hbad : decide e.2.IsBound = false := by simpa using List.find?_some hthroughput
    exact ⟨e.1, _, _, rfl, by rw [Option.map_some, hbad]; rfl⟩
  | none =>
    rw [hthroughput] at h
    cases hrate : f.rates.find? fun e => !decide (IsRate e.2) with
    | some e =>
      rw [hrate] at h
      cases h
      have hbad : decide (IsRate e.2) = false := by simpa using List.find?_some hrate
      exact ⟨e.1, _, _, rfl, by rw [Option.map_some, hbad]; rfl⟩
    | none =>
      rw [hrate] at h
      cases h

end FlatLimits

namespace Check

variable {f : FlatLimits Int}

/-- **Limits are accepted if each value can be a limit.** -/
theorem exists_limits_iff : (∃ l, limits f = .ok l) ↔
    (∀ e ∈ f.throughputs, e.2.IsBound) ∧ ∀ e ∈ f.rates, IsRate e.2 := by
  have hok : (∃ l, limits f = .ok l) ↔ problems (limits f) = [] := by
    cases limits f <;> simp [problems]
  rw [hok, problems_limits, List.take_eq_nil_iff, or_iff_right (by decide), FlatLimits.problems_eq,
    List.append_eq_nil_iff, List.map_eq_nil_iff, List.map_eq_nil_iff, List.filter_eq_nil_iff,
    List.filter_eq_nil_iff]
  simp only [Bool.not_eq_true', decide_eq_false_iff_not, not_not]

/-- Limits are refused with the first of their problems. -/
theorem limits_eq_error_iff {p : Problem} : limits f = .error p ↔ f.problems.head? = some p := by
  have hfirst : f.problems.head? = (problems (limits f)).head? := by
    rw [problems_limits, List.head?_take, if_neg (by decide)]
  rw [hfirst]
  cases limits f <;> simp [problems]

/-- **Limits are refused because of the first key whose value can be no limit.** -/
theorem firstBad_of_limits {p : Problem} (h : limits f = .error p) :
    ∃ key value reason, p = .invalidValue key value reason ∧
      f.verdicts.find? (fun e => !e.2) = some (key, false) :=
  FlatLimits.find?_verdicts_of_problems (limits_eq_error_iff.1 h)

/-- Accepted limits are under the keys that name them. -/
theorem named_of_limits {l : Limits} (h : limits f = .ok l) :
    f.throughputs = l.namedThroughputs ∧
      f.rates = l.namedRates.map fun e => (e.1, (e.2.toNat : Int)) := by
  obtain ⟨rfl, -⟩ := limits_eq_ok_iff.1 h
  exact ⟨l.throughputs_flat, l.flat.rates_widened.trans (congrArg _ l.rates_flat)⟩

/-- **Each key is for the limit that it names.** Limits are accepted if the throughputs are finite and not
below zero and the rates fit 32 bits. Then what each key asks for is the limit that the key names, and
these limits are written into settings under the same keys, whatever they were before, and nothing else
is changed. If limits are refused, the problem is that of the first of the ten keys whose value can be no
limit. No limit is lost between the form by keys and that by direction. -/
theorem limits_routed (s t : Settings) :
    ((∃ l, limits s.limits = .ok l) ↔
      (∀ e ∈ s.limits.throughputs, e.2.isFinite = true ∧ e.2.isBelowZero = false) ∧
        ∀ e ∈ s.limits.rates, 0 ≤ e.2 ∧ e.2 ≤ 4294967295) ∧
    (∀ l, limits s.limits = .ok l →
      s.limits.throughputs = l.namedThroughputs ∧
      s.limits.rates = l.namedRates.map (fun e => (e.1, (e.2.toNat : Int))) ∧
      t.setLimits l.flat = { t with limits := s.limits }) ∧
    (∀ p, limits s.limits = .error p → ∃ key value reason, p = .invalidValue key value reason ∧
      s.limits.verdicts.find? (fun e => !e.2) = some (key, false)) ∧
    (∀ l : Limits, l.flat.grouped = l) ∧ ∀ f : FlatLimits UInt32, f.grouped.flat = f := by
  refine ⟨exists_limits_iff, fun l h => ?_, fun p => firstBad_of_limits, Limits.grouped_flat,
    FlatLimits.flat_grouped⟩
  obtain ⟨hthroughputs, hrates⟩ := named_of_limits h
  refine ⟨hthroughputs, hrates, ?_⟩
  unfold Settings.setLimits
  rw [(limits_eq_ok_iff.1 h).1]

/-- Ten different values, the greatest rate and a zero with a sign among them, and the same with two that
can be no limits. -/
theorem limits_routed_distinct :
    let s : Settings := { limits :=
      ⟨.ofFields false 1023 0, .ofFields false 1024 0, .ofFields false 1025 0, .zeroOf true,
        1, 2, 3, 4, 5, 4294967295⟩ }
    let bad : Settings := { limits := { s.limits with iopsReadBurst := -1, mbpsWriteBurst := .nan false } }
    let t : Settings := { serial := "a", limits := .unlimited 7 }
    let l : Limits := ⟨⟨⟨.ofFields false 1023 0, .ofFields false 1024 0⟩, ⟨1, 2, 3⟩⟩,
      ⟨⟨.ofFields false 1025 0, .zeroOf true⟩, ⟨4, 5, 4294967295⟩⟩⟩
    (limits s.limits = .ok l ∧ s.limits.throughputs = l.namedThroughputs ∧
      t.setLimits l.flat = { serial := "a", limits := s.limits }) ∧
    ∃ p, limits bad.limits = .error p ∧ ∃ value reason, p = .invalidValue "mbps_wr_burst" value reason := by
  intro s bad t l
  have hok : limits s.limits = .ok l := by decide +kernel
  obtain ⟨-, hrouted, -⟩ := limits_routed s t
  obtain ⟨-, -, hrefused, -⟩ := limits_routed bad t
  obtain ⟨hthroughputs, -, hset⟩ := hrouted l hok
  refine ⟨⟨hok, hthroughputs, hset⟩, ?_⟩
  have hbad : limits bad.limits =
      .error (.invalidValue "mbps_wr_burst" "NaN" "expected a non-negative number") := by decide +kernel
  obtain ⟨key, value, reason, hp, hfirst⟩ := hrefused _ hbad
  have hkey : bad.limits.verdicts.find? (fun e => !e.2) = some ("mbps_wr_burst", false) := by decide +kernel
  rw [hkey] at hfirst
  cases hfirst
  exact ⟨_, hbad, value, reason, hp⟩

end Check

end GuestDisks
