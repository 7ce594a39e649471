import GuestDisks.Proofs.KeptValues

/-!
# Records that show only what is set

The entry of a field is written where the field is set and left out otherwise, and what reading supplies
for an absent field is the value that is left out. So the own fields of a record can be looked up in the
table that is written for it, and what it leaves over is what stands behind them.

* `FlatLimits.readsBack`, `Settings.readsBack`: limits and settings are read back from members that show
  them.
* `laidOut`: in a table of own entries before others, each own field is shown, and the others are left.
* `readsBack_iff_of_unknown`, `readsBack_iff_of_rest`: a record comes back exactly if its unknown keys do,
  once its own fields are known to.
-/

namespace GuestDisks

open Data Toml

variable {ms rest : Table} {key : String}

/-! ## Scalars -/

/-- Members show a scalar if they have it where it is set, and leave it out otherwise. -/
def Shows (ms : Table) (key : String) (x : Scalar) : Prop :=
  ms.lookup key = if x.isSet then some (.ofScalar x) else none

/-- A text that is shown is read, and one that is left out is empty. So it is with the other scalars. -/
theorem Shows.text {s : String} (h : Shows ms key (.text s)) :
    Members.orElse ms key Data.text "" = .ok s := by
  unfold Shows at h
  split at h
  · exact Members.orElse_of_lookup h
  · rename_i hs
    have hempty : s = "" := by simpa [Scalar.isSet] using hs
    rw [hempty]
    exact Members.orElse_of_none h

theorem Shows.boolean {b : Bool} (h : Shows ms key (.boolean b)) :
    Members.orElse ms key Data.boolean false = .ok b := by
  cases b with
  | false => exact Members.orElse_of_none h
  | true => exact Members.orElse_of_lookup h

/-- The integers that a document can hold. -/
def IsInt64 (n : Int) : Prop := -0x8000000000000000 ≤ n ∧ n ≤ 0x7fffffffffffffff

/-- An integer is read if it fits 64 bits. -/
theorem int64_eq_ok_iff {v : Value} {n : Int} : int64 v = .ok n ↔ v = .integer n ∧ IsInt64 n := by
  cases v with
  | integer m =>
    show (if -0x8000000000000000 ≤ m ∧ m ≤ 0x7fffffffffffffff then .ok m else .error _) = Except.ok n ↔ _
    by_cases hm : -0x8000000000000000 ≤ m ∧ m ≤ 0x7fffffffffffffff
    · rw [if_pos hm]
      constructor
      · rintro ⟨⟩; exact ⟨rfl, hm⟩
      · rintro ⟨⟨⟩, -⟩; rfl
    · rw [if_neg hm]
      constructor
      · intro h; cases h
      · rintro ⟨⟨⟩, h⟩; exact absurd h hm
  | _ =>
    constructor
    · intro h; cases h
    · rintro ⟨h, -⟩; cases h

/-- What is read as an integer can be written as one. -/
theorem isInt64_of_orElse {n : Int} (h : Members.orElse ms key int64 0 = .ok n) : IsInt64 n := by
  unfold Members.orElse at h
  split at h
  · exact (int64_eq_ok_iff.1 h).2
  · cases h
    exact ⟨by decide, by decide⟩

theorem Shows.integer {n : Int} (h : Shows ms key (.integer n)) (hn : IsInt64 n) :
    Members.orElse ms key int64 0 = .ok n := by
  unfold Shows at h
  split at h
  · exact (Members.orElse_of_lookup h).trans (int64_eq_ok_iff.2 ⟨rfl, hn⟩)
  · rename_i hs
    have hzero : n = 0 := by simpa [Scalar.isSet] using hs
    rw [hzero]
    exact Members.orElse_of_none h

/-- Zero is left out, whatever its sign, and comes back without one. -/
theorem Shows.real {x : Binary64} (h : Shows ms key (.real x)) (hx : x.isNaN = false) :
    ∃ y, Members.orElse ms key Data.real .zero = .ok y ∧ (y == x) = true := by
  unfold Shows at h
  split at h
  · exact ⟨x, Members.orElse_of_lookup h, Binary64.beq_self hx⟩
  · rename_i hs
    have hzero : x.isZero = true := by simpa [Scalar.isSet] using hs
    have hzero' : Binary64.zero.isNaN = false ∧ Binary64.zero.isZero = true := by decide
    refine ⟨.zero, Members.orElse_of_none h, ?_⟩
    rw [Binary64.beq_eq, hx, hzero, hzero'.1, hzero'.2]; simp

/-- An entry has the value of its scalar. -/
theorem lookup_ofEntries (es : List (String × Scalar)) (key : String) :
    (Table.ofEntries es).lookup key = (es.lookup key).map Value.ofScalar := by
  induction es with
  | nil => rfl
  | cons e es ih =>
    show ((e.1, Value.ofScalar e.2) :: Table.ofEntries es).lookup key = _
    rw [lookup_cons_eq_ite, lookup_cons_eq_ite, ih, apply_ite (Option.map Value.ofScalar)]
    rfl

theorem map_key_ofEntries (es : List (String × Scalar)) :
    (Table.ofEntries es).map (·.1) = es.map (·.1) := by
  unfold Table.ofEntries
  rw [List.map_map]; rfl

/-! ## Entries before others -/

/-- Entries before others are found if the others have other keys. -/
theorem lookup_append_of_apart {known rest : Table} (h : key ∉ rest.map (·.1)) :
    (known ++ rest).lookup key = known.lookup key := by
  rw [List.lookup_append, lookup_eq_none_of_not_mem h, Option.or_none]

/-- The entries before others are dropped by their keys. -/
theorem without_append {keys : List String} {known rest : Table} (hknown : ∀ k ∈ known.map (·.1), k ∈ keys)
    (hrest : ∀ k ∈ rest.map (·.1), k ∉ keys) : Members.without keys (known ++ rest) = rest := by
  unfold Members.without
  rw [List.filter_append]
  have hdropped : known.filter (fun m => !keys.contains m.1) = [] := by
    rw [List.filter_eq_nil_iff]
    intro e he
    simpa using hknown e.1 (List.mem_map_of_mem he)
  have hkept : rest.filter (fun m => !keys.contains m.1) = rest := by
    rw [List.filter_eq_self]
    intro e he
    simpa using hrest e.1 (List.mem_map_of_mem he)
  rw [hdropped, hkept, List.nil_append]

theorem without_without (keys keys' : List String) (ms : Table) :
    Members.without keys' (Members.without keys ms) = Members.without (keys ++ keys') ms := by
  unfold Members.without
  rw [List.filter_filter]
  apply List.filter_congr
  intro m _
  rw [List.contains_append, Bool.not_or, Bool.and_comm]

/-- Known keys and others that are apart from them are different. -/
theorem nodup_append {known rest : Table} (hknown : (known.map (·.1)).Nodup) (hrest : (rest.map (·.1)).Nodup)
    (hapart : ∀ k ∈ rest.map (·.1), k ∉ known.map (·.1)) : ((known ++ rest).map (·.1)).Nodup := by
  rw [List.map_append]
  exact hknown.append hrest fun k hk hk' => hapart k hk' hk

/-- A table with a record's own entries, some of them always and the others where they are set, and with
other entries besides. -/
structure LaidOut (always own : List (String × Scalar)) (rest t : Table) : Prop where
  nodup : (t.map (·.1)).Nodup
  gives : ∀ e ∈ always, t.lookup e.1 = some (.ofScalar e.2)
  shows : ∀ e ∈ own, Shows t e.1 e.2
  leaves : Members.without ((always ++ own).map (·.1)) t = rest

/-- **Own entries before entries under other keys are laid out.** -/
theorem laidOut {always own : List (String × Scalar)} {rest : Table}
    (hown : ((always ++ own).map (·.1)).Nodup) (hrest : (rest.map (·.1)).Nodup)
    (hapart : ∀ k ∈ rest.map (·.1), k ∉ (always ++ own).map (·.1)) :
    LaidOut always own rest (Table.ofEntries (always ++ setEntries own) ++ rest) := by
  have hshown : ((Table.ofEntries (always ++ setEntries own)).map (·.1)).Sublist
      ((always ++ own).map (·.1)) := by
    rw [map_key_ofEntries]
    exact ((List.Sublist.refl always).append List.filter_sublist).map _
  have hnodup : ((always ++ setEntries own).map (·.1)).Nodup := by
    rw [← map_key_ofEntries]
    exact hown.sublist hshown
  -- the entries behind have other keys, so the own ones decide what is found
  have hlookup : ∀ e ∈ always ++ own, (Table.ofEntries (always ++ setEntries own) ++ rest).lookup e.1 =
      ((always ++ setEntries own).lookup e.1).map Value.ofScalar := by
    intro e he
    have hrest : e.1 ∉ rest.map (·.1) := fun hk => hapart e.1 hk (List.mem_map_of_mem he)
    rw [lookup_append_of_apart hrest, lookup_ofEntries]
  refine ⟨?nodup, ?gives, ?shows, ?leaves⟩
  case nodup =>
    refine nodup_append (hown.sublist hshown) hrest ?_
    intro k hk hk'
    exact hapart k hk (hshown.subset hk')
  case gives =>
    intro e he
    rw [hlookup e (List.mem_append_left _ he), lookup_of_mem_of_nodup hnodup (List.mem_append_left _ he)]
    rfl
  case shows =>
    intro e he
    rw [List.map_append, List.nodup_append] at hown
    have halways : e.1 ∉ always.map (·.1) := fun hk => hown.2.2 e.1 hk e.1 (List.mem_map_of_mem he) rfl
    unfold Shows
    rw [hlookup e (List.mem_append_right _ he), List.lookup_append, lookup_eq_none_of_not_mem halways,
      Option.none_or]
    unfold setEntries
    rw [lookup_filter _ hown.2.1 he]
    cases e.2.isSet <;> rfl
  case leaves => exact without_append hshown.subset hapart

/-! ## Limits -/

namespace FlatLimits

/-- The limits of a document can all be read. -/
def AreInt64 (f : FlatLimits Int) : Prop := ∀ e ∈ f.rates, IsInt64 e.2

/-- None of the throughputs is not a number. -/
def AreNumbers {ρ : Type} (f : FlatLimits ρ) : Prop := ∀ e ∈ f.throughputs, e.2.isNaN = false

instance {ρ : Type} (f : FlatLimits ρ) : Decidable f.AreNumbers :=
  inferInstanceAs (Decidable (∀ e ∈ f.throughputs, e.2.isNaN = false))

/-- Rates of a disk can be written as integers. -/
theorem areInt64_widened (f : FlatLimits UInt32) : f.widened.AreInt64 := by
  have hword : ∀ n : UInt32, IsInt64 (n.toNat : Int) := by
    intro n
    have hlt : n.toNat < 2 ^ 32 := n.toNat_lt
    constructor <;> omega
  exact List.forall_iff_forall_mem.1 ⟨hword _, hword _, hword _, hword _, hword _, hword _⟩

theorem areInt64_unlimited : (unlimited 0 : FlatLimits Int).AreInt64 := by
  have hzero : IsInt64 0 := ⟨by decide, by decide⟩
  exact List.forall_iff_forall_mem.1 ⟨hzero, hzero, hzero, hzero, hzero, hzero⟩

/-- Limits agree if their throughputs do and their rates are the same. -/
theorem beq_iff {f g : FlatLimits Int} : (f == g) = true ↔
    ((f.mbpsReadBurst == g.mbpsReadBurst) = true ∧ (f.mbpsReadConcurrent == g.mbpsReadConcurrent) = true ∧
      (f.mbpsWriteBurst == g.mbpsWriteBurst) = true ∧
      (f.mbpsWriteConcurrent == g.mbpsWriteConcurrent) = true) ∧ f.rates = g.rates := by
  have h : (f == g) = (f.mbpsReadBurst == g.mbpsReadBurst && (f.mbpsReadConcurrent == g.mbpsReadConcurrent &&
      (f.mbpsWriteBurst == g.mbpsWriteBurst && (f.mbpsWriteConcurrent == g.mbpsWriteConcurrent &&
      (f.iopsReadBurst == g.iopsReadBurst && (f.iopsReadBurstLength == g.iopsReadBurstLength &&
      (f.iopsReadConcurrent == g.iopsReadConcurrent && (f.iopsWriteBurst == g.iopsWriteBurst &&
      (f.iopsWriteBurstLength == g.iopsWriteBurstLength &&
        f.iopsWriteConcurrent == g.iopsWriteConcurrent))))))))) := rfl
  unfold rates
  simp only [h, Bool.and_eq_true, beq_iff_eq, and_assoc, List.cons.injEq, Prod.mk.injEq, true_and, and_true]

/-- Limits that were read can be written. -/
theorem areInt64_of_ofMembers {f : FlatLimits Int} (h : ofMembers int64 0 ms = .ok f) : f.AreInt64 := by
  obtain ⟨_, -, h⟩ := bind_eq_ok_iff.1 h
  obtain ⟨_, -, h⟩ := bind_eq_ok_iff.1 h
  obtain ⟨_, -, h⟩ := bind_eq_ok_iff.1 h
  obtain ⟨_, -, h⟩ := bind_eq_ok_iff.1 h
  obtain ⟨n1, h1, h⟩ := bind_eq_ok_iff.1 h
  obtain ⟨n2, h2, h⟩ := bind_eq_ok_iff.1 h
  obtain ⟨n3, h3, h⟩ := bind_eq_ok_iff.1 h
  obtain ⟨n4, h4, h⟩ := bind_eq_ok_iff.1 h
  obtain ⟨n5, h5, h⟩ := bind_eq_ok_iff.1 h
  obtain ⟨n6, h6, h⟩ := bind_eq_ok_iff.1 h
  cases h
  exact List.forall_iff_forall_mem.1 ⟨isInt64_of_orElse h1, isInt64_of_orElse h2, isInt64_of_orElse h3,
    isInt64_of_orElse h4, isInt64_of_orElse h5, isInt64_of_orElse h6⟩

/-- **Limits that members show are read back.** -/
theorem readsBack {f : FlatLimits Int} (hs : ∀ e ∈ f.entries, Shows ms e.1 e.2) (hi : f.AreInt64)
    (hn : f.AreNumbers) :
    ((fields int64).Forall (·.Fits ms)) ∧ ReadsBack (ofMembers int64 0) ms f := by
  obtain ⟨n1, n2, n3, n4⟩ := List.forall_iff_forall_mem.2 hn
  obtain ⟨i1, i2, i3, i4, i5, i6⟩ := List.forall_iff_forall_mem.2 hi
  obtain ⟨s1, s2, s3, s4, s5, s6, s7, s8, s9, s10⟩ := List.forall_iff_forall_mem.2 hs
  obtain ⟨x1, h1, e1⟩ := Shows.real s1 n1
  obtain ⟨x2, h2, e2⟩ := Shows.real s2 n2
  obtain ⟨x3, h3, e3⟩ := Shows.real s3 n3
  obtain ⟨x4, h4, e4⟩ := Shows.real s4 n4
  have h5 := Shows.integer s5 i1
  have h6 := Shows.integer s6 i2
  have h7 := Shows.integer s7 i3
  have h8 := Shows.integer s8 i4
  have h9 := Shows.integer s9 i5
  have h10 := Shows.integer s10 i6
  refine ⟨⟨.may h1, .may h2, .may h3, .may h4, .may h5, .may h6, .may h7, .may h8, .may h9, .may h10⟩,
    ⟨{ f with mbpsReadBurst := x1, mbpsReadConcurrent := x2, mbpsWriteBurst := x3, mbpsWriteConcurrent := x4 },
      ?_, ?_⟩⟩
  · exact bind_eq_of_ok h1 <| bind_eq_of_ok h2 <| bind_eq_of_ok h3 <| bind_eq_of_ok h4 <| bind_eq_of_ok h5 <|
      bind_eq_of_ok h6 <| bind_eq_of_ok h7 <| bind_eq_of_ok h8 <| bind_eq_of_ok h9 <| bind_eq_of_ok h10 rfl
  · exact beq_iff.2 ⟨⟨e1, e2, e3, e4⟩, rfl⟩

end FlatLimits

/-! ## Settings -/

namespace Settings

/-- The entries before that of the backup setting, if they are all shown. -/
def front (s : Settings) : List (String × Scalar) :=
  [("cache", .text s.cache), ("asyncio", .text s.engine), ("discard", .boolean s.discard),
    ("replicate", .boolean s.replicate)]

/-- The entries between those of the backup setting and of the limits, if they are all shown. -/
def back (s : Settings) : List (String × Scalar) :=
  [("serial", .text s.serial), ("wwn", .text s.wwn), ("emulatessd", .boolean s.emulateSsd),
    ("iothread", .boolean s.ioThread), ("readonly", .boolean s.readOnly)]

/-- All entries. That of the backup setting is shown where there is one, the others if they are set. -/
def scalars (s : Settings) : List (String × Scalar) :=
  s.front ++ s.backupEntry ++ s.back ++ s.limits.entries

theorem setEntries_eq_filter {es : List (String × Scalar)} (h : es.lookup "backup" = none) :
    setEntries es = es.filter fun e => e.1 == "backup" || e.2.isSet := by
  apply List.filter_congr
  intro e he
  rw [beq_false_of_ne (ne_of_lookup_eq_none h he), Bool.false_or]

/-- Of all entries those are written that are set, and that of the backup setting where there is one. -/
theorem entries_eq_filter (s : Settings) :
    s.entries = s.scalars.filter fun e => e.1 == "backup" || e.2.isSet := by
  have hbackup : s.backupEntry.filter (fun e => e.1 == "backup" || e.2.isSet) = s.backupEntry := by
    unfold backupEntry
    cases s.backup <;> rfl
  unfold scalars
  rw [List.filter_append, List.filter_append, List.filter_append, hbackup]
  rw [← setEntries_eq_filter rfl, ← setEntries_eq_filter rfl, ← setEntries_eq_filter rfl]
  rfl

theorem nodup_keys : Settings.keys.Nodup := by decide

theorem keys_scalars (s : Settings) : (s.scalars.map (·.1)).Sublist Settings.keys := by
  have hbackup : (s.backupEntry.map (·.1)).Sublist ["backup"] := by
    unfold backupEntry
    cases s.backup with
    | none => exact List.nil_sublist _
    | some b => exact .refl _
  unfold scalars
  rw [List.map_append, List.map_append, List.map_append]
  exact (((List.Sublist.refl _).append hbackup).append (.refl _)).append (.refl _)

/-- Settings are written under their keys, in the order of these. -/
theorem keys_entries (s : Settings) : (s.entries.map (·.1)).Sublist Settings.keys := by
  rw [entries_eq_filter]
  exact (List.filter_sublist.map _).trans s.keys_scalars

theorem mem_scalars {s : Settings} {e : String × Scalar} (he : e ∈ s.front ++ s.back ++ s.limits.entries) :
    e ∈ s.scalars := by
  unfold scalars
  simp only [List.mem_append] at he ⊢
  tauto

/-- Written settings show each of their scalars. -/
theorem shows_entries (s : Settings) {e : String × Scalar} (he : e ∈ s.front ++ s.back ++ s.limits.entries) :
    Shows (Table.ofEntries s.entries) e.1 e.2 := by
  -- only the entry of the backup setting is shown whatever it holds
  have hb : e.1 ≠ "backup" := ne_of_lookup_eq_none rfl he
  unfold Shows
  rw [lookup_ofEntries, entries_eq_filter, lookup_filter _ (nodup_keys.sublist s.keys_scalars) (mem_scalars he),
    beq_false_of_ne hb, Bool.false_or]
  cases e.2.isSet <;> rfl

theorem lookup_backup (s : Settings) :
    (Table.ofEntries s.entries).lookup "backup" = s.backup.map Value.boolean := by
  rw [lookup_ofEntries, entries_eq_filter]
  cases hb : s.backup with
  | none =>
    have hscalars : s.scalars.lookup "backup" = none := by
      unfold scalars backupEntry
      rw [hb]; rfl
    have hfilter : (s.scalars.filter fun e => e.1 == "backup" || e.2.isSet).lookup "backup" = none := by
      rw [List.lookup_eq_none_iff] at hscalars ⊢
      exact fun e he => hscalars e (List.mem_of_mem_filter he)
    rw [hfilter]; rfl
  | some b =>
    have hmem : ("backup", Scalar.boolean b) ∈ s.scalars := by
      unfold scalars backupEntry
      rw [hb]; simp
    rw [lookup_filter _ (nodup_keys.sublist s.keys_scalars) hmem]; rfl

/-- Settings agree if their limits do and the rest is the same. -/
theorem beq_iff {s t : Settings} : (s == t) = true ↔
    { s with limits := t.limits } = t ∧ (s.limits == t.limits) = true := by
  have h : (s == t) = (s.cache == t.cache && (s.engine == t.engine && (s.discard == t.discard &&
      (s.replicate == t.replicate && (s.backup == t.backup && (s.serial == t.serial &&
      (s.wwn == t.wwn && (s.emulateSsd == t.emulateSsd && (s.ioThread == t.ioThread &&
      (s.readOnly == t.readOnly && s.limits == t.limits)))))))))) := rfl
  obtain ⟨_, _, _, _, _, _, _, _, _, _, _⟩ := s
  obtain ⟨_, _, _, _, _, _, _, _, _, _, _⟩ := t
  simp only [h, Bool.and_eq_true, beq_iff_eq, Settings.mk.injEq, and_true, and_assoc]

/-- The limits of settings that were read can be written. -/
theorem areInt64_of_ofRest {s : Settings} (h : ofRest rest = .ok s) : s.limits.AreInt64 := by
  obtain ⟨_, -, h⟩ := bind_eq_ok_iff.1 h
  obtain ⟨_, -, h⟩ := bind_eq_ok_iff.1 h
  obtain ⟨_, -, h⟩ := bind_eq_ok_iff.1 h
  obtain ⟨_, -, h⟩ := bind_eq_ok_iff.1 h
  obtain ⟨_, -, h⟩ := bind_eq_ok_iff.1 h
  obtain ⟨_, -, h⟩ := bind_eq_ok_iff.1 h
  obtain ⟨_, -, h⟩ := bind_eq_ok_iff.1 h
  obtain ⟨_, -, h⟩ := bind_eq_ok_iff.1 h
  obtain ⟨_, -, h⟩ := bind_eq_ok_iff.1 h
  obtain ⟨_, -, h⟩ := bind_eq_ok_iff.1 h
  obtain ⟨_, -, h⟩ := bind_eq_ok_iff.1 h
  obtain ⟨limits, hlimits, h⟩ := bind_eq_ok_iff.1 h
  cases h
  exact FlatLimits.areInt64_of_ofMembers hlimits

/-- **Settings are read back from what a record leaves over**, whatever else it leaves. -/
theorem readsBack {s : Settings} (hn : (rest.map (·.1)).Nodup)
    (hrest : ∀ key ∈ Settings.keys, rest.lookup key = (Table.ofEntries s.entries).lookup key)
    (hi : s.limits.AreInt64) (hnum : s.limits.AreNumbers) : ReadsBack ofRest rest s := by
  have hshow : ∀ e ∈ s.front ++ s.back ++ s.limits.entries, Shows rest e.1 e.2 := by
    intro e he
    have hkey : e.1 ∈ Settings.keys := s.keys_scalars.subset (List.mem_map_of_mem (mem_scalars he))
    exact (hrest e.1 hkey).trans (s.shows_entries he)
  obtain ⟨hcache, hengine, hdiscard, hreplicate, hserial, hwwn, hssd, hthread, hro, hlimits⟩ :=
    List.forall_iff_forall_mem.2 hshow
  obtain ⟨hfits, limits, hlimits, hbeq⟩ := FlatLimits.readsBack (List.forall_iff_forall_mem.1 hlimits) hi hnum
  have hcache := Shows.text hcache
  have hengine := Shows.text hengine
  have hdiscard := Shows.boolean hdiscard
  have hreplicate := Shows.boolean hreplicate
  have hbackup : Members.orElse rest "backup" (optional boolean) none = .ok s.backup := by
    have hlookup := (hrest "backup" (by decide)).trans s.lookup_backup
    cases hb : s.backup with
    | none => exact Members.orElse_of_none (hlookup.trans (congrArg _ hb))
    | some b => exact Members.orElse_of_lookup (hlookup.trans (congrArg _ hb))
  have hserial := Shows.text hserial
  have hwwn := Shows.text hwwn
  have hssd := Shows.boolean hssd
  have hthread := Shows.boolean hthread
  have hro := Shows.boolean hro
  -- zeros of either sign agree, so the limits that come back need not be the same
  refine ⟨{ s with limits }, ?_, beq_iff.2 ⟨rfl, hbeq⟩⟩
  have hsurvey : survey fields readable [] rest = .ok () := by
    refine survey_eq_ok hn ?_ fun _ _ => rfl
    exact ⟨.may hcache, .may hengine, .may hdiscard, .may hreplicate, .may hbackup, .may hserial, .may hwwn,
      .may hssd, .may hthread, .may hro, hfits⟩
  exact bind_eq_of_ok hsurvey <| bind_eq_of_ok hcache <| bind_eq_of_ok hengine <| bind_eq_of_ok hdiscard <|
    bind_eq_of_ok hreplicate <| bind_eq_of_ok hbackup <| bind_eq_of_ok hserial <| bind_eq_of_ok hwwn <|
    bind_eq_of_ok hssd <| bind_eq_of_ok hthread <| bind_eq_of_ok hro <| bind_eq_of_ok hlimits rfl

end Settings

/-! ## Unknown keys -/

/-- Unknown keys as reading leaves them beside known ones: apart from these, with values that are kept. -/
structure Unknowns.SoundBeside (keys : List String) (u : Unknowns) : Prop where
  apart : ∀ k ∈ u.keys, k ∉ keys
  kept : ∀ e ∈ u.entries, e.2.IsKept

theorem Unknowns.sound_empty (keys : List String) : Unknowns.SoundBeside keys {} := ⟨nofun, nofun⟩

/-- Unknown keys that were read are apart from the known ones. -/
theorem Unknowns.sound_of_ofRest {keys : List String} {u : Unknowns}
    (h : Unknowns.ofRest (Members.without keys ms) = .ok u) : u.SoundBeside keys where
  apart k hk := by
    obtain ⟨e, he, rfl⟩ := List.mem_map.1 hk
    obtain ⟨m, hm, hkey⟩ := List.mem_map.1 (Unknowns.mem_of_ofRest h he).1
    have hapart := (List.mem_filter.1 hm).2
    rw [hkey] at hapart
    simpa using hapart
  kept e he := (Unknowns.mem_of_ofRest h he).2

theorem Unknowns.map_key_table (u : Unknowns) : u.table.map (·.1) = u.keys := by
  unfold Unknowns.table KeyMap.keys
  rw [List.map_map]; rfl

theorem Unknowns.nodup_keys_table (u : Unknowns) : (u.table.map (·.1)).Nodup := by
  rw [u.map_key_table]
  exact KeyMap.nodup_keys u

variable {always own : List (String × Scalar)} {u : Unknowns}

/-- Unknown keys after a record's own. -/
theorem laidOut_unknown (hown : ((always ++ own).map (·.1)).Nodup)
    (hu : u.SoundBeside ((always ++ own).map (·.1))) :
    LaidOut always own u.table (Table.ofEntries (always ++ setEntries own) ++ u.table) := by
  refine laidOut hown u.nodup_keys_table ?_
  rw [u.map_key_table]
  exact hu.apart

/-! ## Settings and unknown keys -/

namespace Settings

variable {s : Settings}

/-- What a record with settings leaves over, its own fields apart. -/
def leftOver (s : Settings) (u : Unknowns) : Table := Table.ofEntries s.entries ++ u.table

theorem keys_ofEntries (s : Settings) :
    ∀ k ∈ (Table.ofEntries s.entries).map (·.1), k ∈ Settings.keys := by
  rw [map_key_ofEntries]
  exact fun _ hk => s.keys_entries.subset hk

variable {keys : List String} (hu : u.SoundBeside (keys ++ Settings.keys))

include hu

/-- Unknown keys are none of those of settings. -/
theorem apart_keys : ∀ k ∈ u.table.map (·.1), k ∉ Settings.keys := by
  rw [u.map_key_table]
  exact fun k hk hk' => hu.apart k hk (List.mem_append_right _ hk')

theorem nodup_leftOver : ((leftOver s u).map (·.1)).Nodup := by
  have hentries : ((Table.ofEntries s.entries).map (·.1)).Nodup := by
    rw [map_key_ofEntries]
    exact nodup_keys.sublist s.keys_entries
  refine nodup_append hentries u.nodup_keys_table ?_
  intro k hk hk'
  exact apart_keys hu k hk (s.keys_ofEntries k hk')

theorem without_leftOver : Members.without Settings.keys (leftOver s u) = u.table :=
  without_append s.keys_ofEntries (apart_keys hu)

/-- **Settings are read back beside unknown keys.** -/
theorem readsBack_leftOver (hi : s.limits.AreInt64) (hn : s.limits.AreNumbers) :
    ReadsBack ofRest (leftOver s u) s := by
  refine readsBack (nodup_leftOver hu) ?_ hi hn
  intro k hk
  exact lookup_append_of_apart fun h => apart_keys hu k h hk

end Settings

/-- Settings and unknown keys after a record's own. -/
theorem laidOut_settings {s : Settings} (hown : ((always ++ own).map (·.1)).Nodup)
    (hsettings : ∀ k ∈ Settings.keys, k ∉ (always ++ own).map (·.1))
    (hu : u.SoundBeside ((always ++ own).map (·.1) ++ Settings.keys)) :
    LaidOut always own (s.leftOver u)
      (Table.ofEntries (always ++ setEntries own ++ s.entries) ++ u.table) := by
  have htable : Table.ofEntries (always ++ setEntries own ++ s.entries) ++ u.table =
      Table.ofEntries (always ++ setEntries own) ++ s.leftOver u := by
    unfold Table.ofEntries Settings.leftOver Table.ofEntries
    rw [List.map_append, List.append_assoc]
  rw [htable]
  refine laidOut hown (Settings.nodup_leftOver hu) ?_
  intro k hk hk'
  unfold Settings.leftOver at hk
  rw [List.map_append, List.mem_append, u.map_key_table] at hk
  rcases hk with hk | hk
  · exact hsettings k (s.keys_ofEntries k hk) hk'
  · exact hu.apart k hk (List.mem_append_left _ hk')

/-- Settings and unknown keys as reading leaves them beside own fields with these keys. -/
structure SoundRest (keys : List String) (s : Settings) (u : Unknowns) : Prop where
  limits : s.limits.AreInt64
  unknown : u.SoundBeside (keys ++ Settings.keys)

/-! ## Records and what they leave over -/

/-- A value is a record that leaves these unknown keys over, the given keys apart. -/
def LeavesUnknown (keys : List String) (v : Value) (u : Unknowns) : Prop :=
  ∃ ms whole, shape v = .map ms whole ∧ Unknowns.ofRest (Members.without keys ms) = .ok u

/-- A value is a record that leaves these settings and unknown keys over, the given keys apart. -/
def LeavesRest (keys : List String) (v : Value) (s : Settings) (u : Unknowns) : Prop :=
  ∃ ms whole, shape v = .map ms whole ∧ Settings.ofRest (Members.without keys ms) = .ok s ∧
    Unknowns.ofRest (Members.without Settings.keys (Members.without keys ms)) = .ok u

variable {keys : List String} {v : Value} {s : Settings} {t : Table}

/-- What a record leaves over is as reading leaves it. -/
theorem LeavesUnknown.sound (h : LeavesUnknown keys v u) : u.SoundBeside keys := by
  obtain ⟨ms, whole, -, hu⟩ := h
  exact Unknowns.sound_of_ofRest hu

theorem LeavesRest.unknown (h : LeavesRest keys v s u) : LeavesUnknown (keys ++ Settings.keys) v u := by
  obtain ⟨ms, whole, hshape, -, hu⟩ := h
  rw [without_without] at hu
  exact ⟨ms, whole, hshape, hu⟩

/-- Settings that a record leaves over are as reading leaves them, with the unknown keys beside them. -/
theorem LeavesRest.sound (h : LeavesRest keys v s u) : SoundRest keys s u := by
  obtain ⟨ms, whole, -, hs, -⟩ := id h
  exact ⟨Settings.areInt64_of_ofRest hs, h.unknown.sound⟩

section

variable {β : Type} [BEq β] {read : Reader Value β} {b : β} (settings : β → Settings) (unknown : β → Unknowns)

/-- **A record is read back exactly if its unknown keys are**, where its own fields always are. -/
theorem readsBack_iff_of_unknown (hleaves : Members.without keys t = (unknown b).table)
    (hof : ∀ {b'}, read (.table t) = .ok b' → LeavesUnknown keys (.table t) (unknown b'))
    (hbeq : ∀ {b'}, (b' == b) = true → (unknown b' == unknown b) = true)
    (hread : ∀ {u}, Unknowns.ofRest (Members.without keys t) = .ok u → (u == unknown b) = true →
      ReadsBack read (.table t) b) :
    ReadsBack read (.table t) b ↔ (unknown b).AreReadBack := by
  constructor
  · rintro ⟨b', hb', heq⟩
    obtain ⟨ms, whole, hshape, hu⟩ := hof hb'
    cases hshape
    rw [hleaves] at hu
    exact ⟨unknown b', hu, hbeq heq⟩
  · rintro ⟨u, hu, heq⟩
    rw [← hleaves] at hu
    exact hread hu heq

/-- **A record with settings is read back exactly if its unknown keys are**, where its own fields always
are. -/
theorem readsBack_iff_of_rest (hb : SoundRest keys (settings b) (unknown b))
    (hn : (settings b).limits.AreNumbers)
    (hleaves : Members.without keys t = (settings b).leftOver (unknown b))
    (hof : ∀ {b'}, read (.table t) = .ok b' → LeavesRest keys (.table t) (settings b') (unknown b'))
    (hbeq : ∀ {b'}, (b' == b) = true → (unknown b' == unknown b) = true)
    (hread : ∀ {s u}, Settings.ofRest (Members.without keys t) = .ok s → (s == settings b) = true →
      Unknowns.ofRest (Members.without Settings.keys (Members.without keys t)) = .ok u →
      (u == unknown b) = true → ReadsBack read (.table t) b) :
    ReadsBack read (.table t) b ↔ (unknown b).AreReadBack := by
  have hunknown : Members.without (keys ++ Settings.keys) t = (unknown b).table := by
    rw [← without_without, hleaves, Settings.without_leftOver hb.unknown]
  obtain ⟨s, hs, hsbeq⟩ : ReadsBack Settings.ofRest (Members.without keys t) (settings b) := by
    rw [hleaves]
    exact Settings.readsBack_leftOver hb.unknown hb.limits hn
  refine readsBack_iff_of_unknown unknown hunknown (fun h => (hof h).unknown) hbeq ?_
  intro u hu hubeq
  rw [← without_without] at hu
  exact hread hs hsbeq hu hubeq

end

end GuestDisks
