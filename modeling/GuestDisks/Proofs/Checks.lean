import GuestDisks.Proofs.SizeText
import GuestDisks.Proofs.WellFormed
import GuestDisks.Request.Check
import Mathlib.Logic.Function.Basic

/-!
# Checks undo writing

Each check accepts exactly the texts that are written for well-formed values, and gives the value
back: `check raw = .ok v` holds if and only if `raw` is how `v` is written and `v` is well formed.
Both halves are used: the first says that what was built is well formed, the second that what was
written is read again.
-/

namespace GuestDisks

/-! ## Names of finitely many values -/

/-- **A look-up among labels finds the value with that label.** -/
theorem ofLabel?_eq_some_iff {β : Type} {label : β → String} {all : List β} (hall : ∀ b, b ∈ all)
    (hinj : Function.Injective label) {name : String} {b : β} :
    ofLabel? label all name = some b ↔ label b = name := by
  unfold ofLabel?
  refine ⟨fun h => by simpa using List.find?_some h, fun h => ?_⟩
  cases hf : all.find? fun b => label b == name with
  | none => exact absurd h (by simpa using List.find?_eq_none.1 hf b (hall b))
  | some b' =>
    have hb' : label b' = name := by simpa using List.find?_some hf
    rw [hinj (h.trans hb'.symm)]

/-- Labels tell formats apart, and so it is with the other choices. -/
theorem ImageFormat.label_injective : Function.Injective ImageFormat.label := by
  intro a b h; revert h; cases a <;> cases b <;> decide

theorem CacheMode.label_injective : Function.Injective CacheMode.label := by
  intro a b h; revert h; cases a <;> cases b <;> decide

theorem IoEngine.label_injective : Function.Injective IoEngine.label := by
  intro a b h; revert h; cases a <;> cases b <;> decide

theorem ImageFormat.mem_all (f : ImageFormat) : f ∈ ImageFormat.all := by cases f <;> decide

theorem CacheMode.mem_all (c : CacheMode) : c ∈ CacheMode.all := by cases c <;> decide

theorem IoEngine.mem_all (e : IoEngine) : e ∈ IoEngine.all := by cases e <;> decide

namespace Check

/-- The label of a format is accepted as the format. -/
theorem format_label (f : ImageFormat) : format f.label = .ok f := by
  have h : ofLabel? ImageFormat.label ImageFormat.all f.label = some f :=
    (ofLabel?_eq_some_iff ImageFormat.mem_all ImageFormat.label_injective).2 rfl
  unfold format
  rw [if_neg (by cases f <;> decide), h]

/-- A value that may be left out is written as its label, or as nothing. -/
theorem eq_labelOrEmpty_iff {β : Type} {label : β → String} {all : List β} (hall : ∀ b, b ∈ all)
    (hinj : Function.Injective label) (hne : ∀ b, label b ≠ "") {raw : String} {o : Option β} :
    raw = (o.map label).getD "" ↔
      if raw = "" then o = none else ∃ b, ofLabel? label all raw = some b ∧ o = some b := by
  rcases o with _ | b
  · by_cases h : raw = "" <;> simp [h]
  · simp only [Option.map_some, Option.getD_some, Option.some.injEq, reduceCtorEq, exists_eq_right',
      ofLabel?_eq_some_iff hall hinj]
    split
    · rename_i h
      simp only [iff_false]; rintro rfl; exact hne b h
    · exact eq_comm

/-- A cache mode is written as its label, and none as the empty text. -/
theorem cache_eq_ok_iff {raw : String} {o : Option CacheMode} :
    cache raw = .ok o ↔ raw = (o.map CacheMode.label).getD "" := by
  rw [eq_labelOrEmpty_iff CacheMode.mem_all CacheMode.label_injective (by intro b; cases b <;> decide)]
  unfold cache
  split
  · simp [eq_comm]
  · cases ofLabel? CacheMode.label CacheMode.all raw <;> simp [eq_comm]

/-- An engine is written as its label, and none as the empty text. -/
theorem engine_eq_ok_iff {raw : String} {o : Option IoEngine} :
    engine raw = .ok o ↔ raw = (o.map IoEngine.label).getD "" := by
  rw [eq_labelOrEmpty_iff IoEngine.mem_all IoEngine.label_injective (by intro b; cases b <;> decide)]
  unfold engine
  split
  · simp [eq_comm]
  · cases ofLabel? IoEngine.label IoEngine.all raw <;> simp [eq_comm]

/-! ## Texts that are kept as they are -/

/-- A text of a given form that may be left out is written as itself, or as nothing. -/
theorem optionalText_eq_ok_iff {test : String → Bool} {P : String → Prop}
    (htest : ∀ s, test s = true ↔ P s) (hne : ¬ P "") {raw : String} {p : Problem}
    {o : Option String} :
    (if raw = "" then .ok none else if test raw then .ok (some raw) else .error p :
      Except Problem (Option String)) = .ok o ↔ raw = o.getD "" ∧ ∀ s ∈ o, P s := by
  by_cases h : raw = ""
  · subst h
    rw [if_pos rfl]
    rcases o with _ | s
    · simp
    · simp only [Except.ok.injEq, reduceCtorEq, Option.getD_some, Option.mem_some_iff, forall_eq',
        false_iff, not_and]
      rintro rfl; exact hne
  · rw [if_neg h]
    rcases o with _ | s
    · split <;> simp [h]
    · by_cases ht : test raw = true
      · rw [if_pos ht]
        simp only [Except.ok.injEq, Option.some.injEq, Option.getD_some, Option.mem_some_iff, forall_eq']
        exact ⟨fun he => ⟨he, he ▸ (htest raw).1 ht⟩, fun he => he.1⟩
      · rw [if_neg ht]
        simp only [reduceCtorEq, Option.getD_some, Option.mem_some_iff, forall_eq', false_iff, not_and]
        rintro rfl hP; exact ht ((htest raw).2 hP)

theorem isSerialChar_iff (c : Char) :
    isSerialChar c = true ↔ c.isAlphanum = true ∨ c = '_' ∨ c = '-' := by
  have halnum : c.isAlphanum =
      (decide ('A' ≤ c ∧ c ≤ 'Z') || ('a' ≤ c && c ≤ 'z') || ('0' ≤ c && c ≤ '9')) := rfl
  simp only [isSerialChar, halnum, Bool.or_eq_true, Bool.and_eq_true, decide_eq_true_eq, beq_iff_eq,
    or_assoc]

/-- The check of serial numbers accepts what is one. -/
theorem isSerial_iff (s : String) : isSerial s = true ↔ IsSerialNumber s := by
  have hlen : s ≠ "" ↔ 1 ≤ s.toList.length := by
    rw [Nat.one_le_iff_ne_zero, ne_eq, ne_eq, List.length_eq_zero_iff, String.toList_eq_nil_iff]
  simp only [isSerial, IsSerialNumber, Bool.and_eq_true, decide_eq_true_eq, bne_iff_ne, hlen,
    List.all_eq_true, isSerialChar_iff]
  tauto

/-- A serial number is kept as it is written, and none is the empty text. -/
theorem serial_eq_ok_iff {raw : String} {o : Option String} :
    serial raw = .ok o ↔ raw = o.getD "" ∧ ∀ s ∈ o, IsSerialNumber s :=
  optionalText_eq_ok_iff isSerial_iff (by decide)

theorem isHexDigit_iff (c : Char) : isHexDigit c = true ↔ IsHexDigit c := by
  simp only [isHexDigit, IsHexDigit, Char.isDigit, Bool.or_eq_true, Bool.and_eq_true,
    decide_eq_true_eq, or_assoc]
  exact Iff.rfl

/-- The check of world wide names accepts what is one. -/
theorem isWwn_iff (s : String) : isWwn s = true ↔ IsWorldWideName s := by
  unfold isWwn IsWorldWideName
  split
  · rename_i ds h
    rw [h]
    simp [isHexDigit_iff]
  · rename_i h
    simp only [Bool.false_eq_true, false_iff, not_and]
    intro ht
    exfalso
    -- a text of two characters or more that begins with `0x` was the first case
    match hs : s.toList with
    | [] | [_] => simp [hs] at ht
    | a :: b :: ds =>
      rw [hs, List.take_succ_cons, List.take_succ_cons, List.take_zero] at ht
      obtain ⟨rfl, rfl⟩ : a = '0' ∧ b = 'x' := by simpa using ht
      exact h ds hs

/-- A world wide name is kept as it is written, and none is the empty text. -/
theorem wwn_eq_ok_iff {raw : String} {o : Option String} :
    wwn raw = .ok o ↔ raw = o.getD "" ∧ ∀ s ∈ o, IsWorldWideName s :=
  optionalText_eq_ok_iff isWwn_iff (by decide)

/-! ## Images -/

/-- The first colon splits a text into the part without colons before it and the rest. -/
theorem splitColon_eq_some_iff {cs ss fs : List Char} :
    splitColon cs = some (ss, fs) ↔ cs = ss ++ ':' :: fs ∧ ':' ∉ ss := by
  induction cs generalizing ss with
  | nil => simp [splitColon]
  | cons c cs ih =>
    unfold splitColon
    by_cases hc : c = ':'
    · -- here is the first colon, so the part before it is empty
      subst hc
      rw [if_pos rfl]
      rcases ss with _ | ⟨s, ss⟩
      · simp
      · simp only [Option.some.injEq, Prod.mk.injEq, reduceCtorEq, false_and, List.cons_append,
          List.cons.injEq, List.mem_cons, not_or, false_iff, not_and]
        rintro ⟨rfl, -⟩ h; exact absurd rfl h
    · rw [if_neg hc]
      rcases ss with _ | ⟨s, ss⟩
      · simp [hc]
      · simp only [Option.map_eq_some_iff, Prod.exists, Prod.mk.injEq, List.cons.injEq,
          List.cons_append, List.mem_cons, not_or]
        constructor
        · rintro ⟨a, b, h, ⟨rfl, rfl⟩, rfl⟩
          obtain ⟨rfl, ha⟩ := ih.1 h
          exact ⟨⟨rfl, rfl⟩, fun he => hc he.symm, ha⟩
        · rintro ⟨⟨rfl, rfl⟩, -, hss⟩
          exact ⟨ss, fs, ih.2 ⟨rfl, hss⟩, ⟨rfl, rfl⟩, rfl⟩

/-- An image is cut at the first colon, with something on both sides. -/
theorem iso_eq_ok_iff {raw storage file : String} : iso raw = .ok (storage, file) ↔
    raw = storage ++ ":" ++ file ∧ storage ≠ "" ∧ ':' ∉ storage.toList ∧ file ≠ "" := by
  constructor
  · intro h
    unfold iso at h
    split at h
    · rename_i s ss f fs hs
      obtain ⟨hraw, hc⟩ := splitColon_eq_some_iff.1 hs
      simp only [Except.ok.injEq, Prod.mk.injEq] at h
      obtain ⟨rfl, rfl⟩ := h
      refine ⟨?_, by simp [← String.toList_inj], by rwa [String.toList_ofList], by simp [← String.toList_inj]⟩
      rw [← String.toList_inj, String.toList_append, String.toList_append, String.toList_ofList,
        String.toList_ofList, hraw]
      simp
    · cases h
  · rintro ⟨rfl, hs, hc, hf⟩
    have hsplit : splitColon (storage ++ ":" ++ file).toList = some (storage.toList, file.toList) :=
      splitColon_eq_some_iff.2 ⟨by simp, hc⟩
    obtain ⟨s, ss, hs'⟩ := List.exists_cons_of_ne_nil (mt String.toList_eq_nil_iff.1 hs)
    obtain ⟨f, fs, hf'⟩ := List.exists_cons_of_ne_nil (mt String.toList_eq_nil_iff.1 hf)
    unfold iso
    rw [hsplit, hs', hf']
    simp only [← hs', ← hf', String.ofList_toList]

/-! ## Sizes and limits -/

/-- A size is accepted from a text that reads as it, unless it is zero. -/
theorem size_eq_ok_iff {raw : String} {z : DiskSize} :
    size raw = .ok z ↔ Size.parse raw = z.kib ∧ 0 < z.kib := by
  obtain ⟨k⟩ := z
  unfold size DiskSize.ofText
  by_cases h : Size.parse raw = 0
  · rw [if_pos h, h]
    simp only [Except.mapError, reduceCtorEq, false_iff, not_and]
    rintro rfl; decide
  · rw [if_neg h]
    simp only [Except.mapError, Except.ok.injEq, DiskSize.mk.injEq]
    exact ⟨fun he => ⟨he, he ▸ UInt64.pos_iff_ne_zero.2 h⟩, fun he => he.1⟩

theorem forM_eq_ok_iff {α : Type} {f : α → Except Problem Unit} {l : List α} :
    l.forM f = .ok () ↔ ∀ x ∈ l, f x = .ok () := by
  induction l with
  | nil => simp [pure, Except.pure]
  | cons x l ih =>
    have hcons : (x :: l).forM f = (f x).bind fun _ => l.forM f := rfl
    rw [hcons]
    cases hx : f x with
    | error p => simp [Except.bind, hx]
    | ok u => simpa [Except.bind, hx] using ih

/-- A throughput is accepted exactly if it can be a bound. -/
theorem throughput_eq_ok_iff {key : String} {x : Binary64} :
    throughput (key, x) = .ok () ↔ x.IsBound := by
  unfold throughput Binary64.IsBound
  cases x.isFinite <;> cases x.isBelowZero <;> simp

/-- A rate is accepted exactly if it fits 32 bits. -/
theorem rate_eq_ok_iff {key : String} {n : Int} :
    rate (key, n) = .ok () ↔ 0 ≤ n ∧ n < UInt32.size := by
  unfold rate
  rw [show ((UInt32.size : Nat) : Int) = 0xffffffff + 1 from rfl]
  split
  · simp only [true_iff]; omega
  · simp only [reduceCtorEq, false_iff]; omega

theorem toNat_ofNat_rate {n : Int} (h : 0 ≤ n ∧ n < UInt32.size) :
    ((UInt32.ofNat n.toNat).toNat : Int) = n := by
  have : n.toNat < UInt32.size := by omega
  rw [UInt32.toNat_ofNat_of_lt' this]; omega

theorem ofNat_toNat_rate (n : UInt32) : UInt32.ofNat ((n.toNat : Int).toNat) = n := by simp

theorem limits_eq_bind (f : FlatLimits Int) :
    limits f = (f.throughputs.forM throughput).bind fun _ => (f.rates.forM rate).bind fun _ =>
      .ok (f.mapRates fun n => UInt32.ofNat n.toNat).grouped := rfl

/-- **The limits accepted are those whose writing was given.** -/
theorem limits_eq_ok_iff {f : FlatLimits Int} {l : Limits} :
    limits f = .ok l ↔ f = l.flat.widened ∧ l.AreBounds := by
  constructor
  · intro h
    rw [limits_eq_bind] at h
    cases ht : f.throughputs.forM throughput with
    | error p => rw [ht] at h; cases h
    | ok u =>
      cases hr : f.rates.forM rate with
      | error p => rw [ht, hr] at h; cases h
      | ok u =>
        -- all ten keys were accepted; a rate that was is its own 32-bit value
        rw [ht, hr] at h
        obtain rfl := Except.ok.inj h
        rw [forM_eq_ok_iff] at ht hr
        simp only [FlatLimits.throughputs, FlatLimits.rates, List.forall_mem_cons, List.not_mem_nil,
          false_imp_iff, implies_true, and_true, throughput_eq_ok_iff, rate_eq_ok_iff] at ht hr
        obtain ⟨r1, r2, r3, r4, r5, r6⟩ := hr
        refine ⟨?_, ht⟩
        simp only [FlatLimits.grouped, Limits.flat, FlatLimits.widened, FlatLimits.mapRates,
          toNat_ofNat_rate r1, toNat_ofNat_rate r2, toNat_ofNat_rate r3, toNat_ofNat_rate r4,
          toNat_ofNat_rate r5, toNat_ofNat_rate r6]
  · rintro ⟨rfl, hb⟩
    have ht : l.flat.widened.throughputs.forM throughput = .ok () := by
      rw [forM_eq_ok_iff]
      simp only [FlatLimits.throughputs, List.forall_mem_cons, List.not_mem_nil, false_imp_iff,
        implies_true, and_true, throughput_eq_ok_iff]
      exact hb
    have hr : l.flat.widened.rates.forM rate = .ok () := by
      rw [forM_eq_ok_iff]
      simp only [FlatLimits.rates, FlatLimits.widened, FlatLimits.mapRates, List.forall_mem_cons,
        List.not_mem_nil, false_imp_iff, implies_true, and_true, rate_eq_ok_iff]
      refine ⟨?_, ?_, ?_, ?_, ?_, ?_⟩ <;> exact ⟨Int.natCast_nonneg _, Int.ofNat_lt.2 (UInt32.toNat_lt_size _)⟩
    rw [limits_eq_bind, ht, hr]
    simp only [Except.bind, FlatLimits.widened, FlatLimits.mapRates, Limits.flat, FlatLimits.grouped,
      ofNat_toNat_rate]

end Check

end GuestDisks
