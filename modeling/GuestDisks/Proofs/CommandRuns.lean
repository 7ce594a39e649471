import GuestDisks.Command.Run
import GuestDisks.Proofs.DocumentTexts

/-!
# Runs of the command, one after another

A run that decodes a document succeeds exactly if the text is a document with no errors in it, and prints
nothing if it fails. What a run prints is taken by the next: the configuration that decoding prints is read by
a run that encodes it (`Configuration.readDocument_text`), and what that prints is a document without errors on
either surface. So a document that is decoded, encoded and decoded again comes to the configuration that it
came to at first, with what was unchanged deleted (`Command.decode_encode_decode`).
-/

namespace GuestDisks

open Data Json

/-! ## Zeros -/

/-- Both zeros are read back. -/
theorem Json.isReadBack_of_isZero {x : Binary64} (h : x.isZero = true) : Json.IsReadBack x := by
  obtain ⟨negative, exponent, fraction⟩ := x
  unfold Binary64.isZero at h
  rw [Bool.and_eq_true, beq_iff_eq, beq_iff_eq] at h
  obtain ⟨rfl, rfl⟩ : exponent = 0 ∧ fraction = 0 := h
  cases negative with
  | false => exact isReadBack_of_parts (by decide +kernel : compact (.real .zero) = "0.0") rfl (by decide +kernel)
  | true =>
    have htext : compact (.real (.zeroOf true)) = "-0.0" := by decide +kernel
    have hvalue : realOf true ['0'] ['0'] 0 = some (.zeroOf true) := by decide +kernel
    have hread : readDraft "-0.0" = (numberOf true ['0'] ['0'] false 0, true) := rfl
    -- the sign is read with the digits, so the lemma about parts without a sign does not apply
    show readDraft (compact (.real (.zeroOf true))) = (.real (.zeroOf true), true)
    rw [htext, hread]
    unfold numberOf
    rw [hvalue]
    rfl

/-! ## Throughputs of agreeing configurations -/

theorem Limits.throughputs_of_beq {l m : Limits} (h : (l == m) = true) :
    ∀ x ∈ l.throughputs, ∃ y ∈ m.throughputs, (x == y) = true := by
  obtain ⟨⟨h1, h2⟩, -, ⟨h3, h4⟩, -⟩ := Limits.beq_iff.1 h
  have hmem : ∀ y ∈ [m.read.mbps.burst, m.read.mbps.concurrent, m.write.mbps.burst, m.write.mbps.concurrent],
      y ∈ m.throughputs := fun _ hy => hy
  simp only [List.forall_mem_cons] at hmem
  obtain ⟨m1, m2, m3, m4, -⟩ := hmem
  exact List.forall_iff_forall_mem.1 ⟨⟨_, m1, h1⟩, ⟨_, m2, h2⟩, ⟨_, m3, h3⟩, ⟨_, m4, h4⟩⟩

/-- Variants that agree have the same throughputs, up to the signs of zeros. -/
theorem Variant.throughputs_of_beq {v w : Variant} (h : (v == w) = true) :
    ∀ x ∈ v.throughputs, x ∈ w.throughputs ∨ x.isZero = true := by
  have hlimits : ∀ {l m : Limits}, (l == m) = true → ∀ x ∈ l.throughputs, x ∈ m.throughputs ∨ x.isZero = true := by
    intro l m hlm x hx
    obtain ⟨y, hy, hxy⟩ := Limits.throughputs_of_beq hlm x hx
    rcases Binary64.eq_or_isZero_of_beq hxy with rfl | ⟨hzero, -⟩
    · exact .inl hy
    · exact .inr hzero
  rcases beq_cases h with ⟨x, y, rfl, rfl⟩ | ⟨x, y, rfl, rfl⟩ | rfl
  · exact hlimits (DiskOptions.beq_iff.1 (beq_disk_iff.1 h).2.2.2).2
  · exact hlimits (DiskOptions.beq_iff.1 (beq_passthrough_iff.1 h).2).2
  · exact fun x hx => .inl hx

theorem Variant.throughputs_written (v : Variant) : v.written.throughputs = v.throughputs := by
  cases v <;> rfl

namespace Configuration

variable {c c' : Configuration}

/-- A throughput of a configuration is one of some slot. -/
theorem exists_slot_of_throughputs {x : Binary64} (h : x ∈ c.throughputs) : ∃ s, x ∈ (c.get s).throughputs := by
  obtain ⟨⟨s, v⟩, hmem, hx⟩ := List.mem_flatMap.1 h
  rw [mem_entries] at hmem
  exact ⟨s, hmem ▸ hx⟩

/-- A well-formed configuration has finite throughputs. -/
theorem isFinite_throughputs (hc : ∀ s, (c.get s).WellFormedOn s.bus) :
    ∀ x ∈ c.throughputs, x.isFinite = true := by
  intro x hx
  obtain ⟨s, hs⟩ := exists_slot_of_throughputs hx
  exact (hc s).isFinite x hs

/-- What is read back of a configuration is so of one that agrees with what is written for it. -/
theorem isReadBack_throughputs (h : (c' == c.written) = true) (hread : ∀ x ∈ c.throughputs, IsReadBack x) :
    ∀ x ∈ c'.throughputs, IsReadBack x := by
  intro x hx
  obtain ⟨s, hs⟩ := exists_slot_of_throughputs hx
  have hslot : (c'.get s == (c.get s).written) = true := by
    rw [← get_written]
    exact beq_iff.1 h s
  rcases Variant.throughputs_of_beq hslot x hs with hmem | hzero
  · rw [Variant.throughputs_written] at hmem
    exact hread x (mem_throughputs hmem)
  · -- agreement is up to the signs of zeros, so a zero may be one that `c` does not have
    exact isReadBack_of_isZero hzero

/-! ## Texts of configurations -/

/-- What a run prints of a configuration. -/
def text (c : Configuration) : String := c.json.pretty ++ "\n"

/-- **A configuration is read from what is printed of it.** -/
theorem readDocument_text (hfinite : ∀ x ∈ c.throughputs, x.isFinite = true)
    (hread : ∀ x ∈ c.throughputs, IsReadBack x) : readDocument read c.text = .ok c := by
  have hjson : read (draft c.json) = .ok c := by
    refine read_draft hfinite (fun _ => true) (fun _ _ => rfl) ?_
    rw [List.filter_true]
    exact .refl _
  have hprintable : IsPrintable c.json := by
    refine hasPrintable_iff.2 fun m hm => ?_
    obtain ⟨⟨s, v⟩, he, rfl⟩ := List.mem_map.1 hm
    apply Variant.isPrintable_json
    intro x hx
    rw [mem_entries.1 he] at hx
    exact hread x (mem_throughputs hx)
  have hblank : Blank ['\n'] := by
    intro c hc
    obtain rfl := List.mem_singleton.1 hc
    rfl
  have htext : c.text = String.ofList (prettyChars 0 c.json ++ ['\n']) := by
    rw [String.ofList_append]
    rfl
  unfold readDocument
  rw [htext, readDraft_of_text (text_pretty 0 hprintable) hblank]
  exact bind_eq_of_ok hjson rfl

end Configuration

namespace Command

/-! ## Single runs -/

/-- A text is a document with no errors in it. -/
def Accepted (text : String) (d : Document) : Prop :=
  Document.read text = .ok d ∧ ∀ x ∈ d.decode.report, x.isError = false

/-- A text is accepted if it reads as the document and no error is found in it. -/
theorem accepted_iff {text : String} {d : Document} :
    Accepted text d ↔ Document.read text = .ok d ∧ d.decode.report.hasErrors = false := by
  unfold Accepted Report.hasErrors
  rw [List.any_eq_false]
  simp only [Bool.not_eq_true]

/-- An accepted text is decoded to the text of its configuration, with success. -/
theorem decode_of_accepted {text : String} {d : Document} (h : Accepted text d) (file : String) :
    (decode file (some text)).exit = 0 ∧ (decode file (some text)).output = d.decode.config.text := by
  obtain ⟨hread, hreport⟩ := accepted_iff.1 h
  unfold decode
  rw [Option.map_some, hread]
  dsimp only
  rw [hreport]
  exact ⟨rfl, rfl⟩

/-- **A text that is not accepted gives no output**, and no success. -/
theorem decode_of_not_accepted {text : String} (h : ∀ d, ¬ Accepted text d) (file : String) :
    (decode file (some text)).exit ≠ 0 ∧ (decode file (some text)).output = "" := by
  unfold decode
  rw [Option.map_some]
  cases hread : Document.read text with
  | error e => exact ⟨Nat.one_ne_zero, rfl⟩
  | ok d =>
    have hreport : d.decode.report.hasErrors = true := by
      rw [← Bool.not_eq_false]
      exact fun herrors => h d (accepted_iff.2 ⟨hread, herrors⟩)
    dsimp only
    rw [hreport]
    exact ⟨Nat.one_ne_zero, rfl⟩

/-- The text of a configuration is encoded to that of its document, with success. -/
theorem encode_of_read {text : String} {c : Configuration} (h : readDocument Configuration.read text = .ok c)
    (file : String) (surface : Surface) :
    (encode file surface (some text)).exit = 0 ∧
      (encode file surface (some text)).output = (Document.encode surface c).output.write := by
  unfold encode
  rw [Option.map_some, h]
  exact ⟨rfl, rfl⟩

/-! ## Runs one after another -/

/-- **Decoding, encoding and decoding again.** The command decodes a text exactly if that is a document with
no errors in it, and then prints its configuration; else it fails and prints nothing. If the throughputs of the
configuration are read back from JSON and from TOML as they are printed there, then what is printed is read as
the configuration, encoding it succeeds on either surface, and so does decoding what is printed then: it prints
a configuration that agrees with the first, with what was unchanged deleted. -/
theorem decode_encode_decode (text : String) :
    (∀ file, ((decode file (some text)).exit = 0 ↔ ∃ d, Accepted text d) ∧
      ((decode file (some text)).exit ≠ 0 → (decode file (some text)).output = "")) ∧
    ∀ d, Accepted text d → ∀ file, (decode file (some text)).output = d.decode.config.text ∧
      ((∀ x ∈ d.decode.config.throughputs, Json.IsReadBack x ∧ Toml.IsReadBack x) →
        readDocument Configuration.read (decode file (some text)).output = .ok d.decode.config ∧
        ∀ (file' file'' : String) (surface : Surface),
          let encoded := encode file' surface (some (decode file (some text)).output)
          let again := decode file'' (some encoded.output)
          encoded.exit = 0 ∧ again.exit = 0 ∧
            ∃ c, again.output = c.text ∧ readDocument Configuration.read again.output = .ok c ∧
              (c == d.decode.config.written) = true) := by
  refine ⟨fun file => ?_, fun d hd file => ?_⟩
  · by_cases haccepted : ∃ d, Accepted text d
    · obtain ⟨d, hd⟩ := haccepted
      obtain ⟨hexit, -⟩ := decode_of_accepted hd file
      exact ⟨⟨fun _ => ⟨d, hd⟩, fun _ => hexit⟩, fun hne => absurd hexit hne⟩
    · obtain ⟨hexit, houtput⟩ := decode_of_not_accepted (not_exists.1 haccepted) file
      exact ⟨⟨fun hzero => absurd hzero hexit, fun hex => absurd hex haccepted⟩, fun _ => houtput⟩
  · obtain ⟨-, houtput⟩ := decode_of_accepted hd file
    rw [houtput]
    refine ⟨rfl, fun hback => ?_⟩
    have hformed : ∀ s, (d.decode.config.get s).WellFormedOn s.bus := d.wellFormed_decode
    -- what was decoded is well-formed, and each stage after it needs no more than that
    have hjson : readDocument Configuration.read d.decode.config.text = .ok d.decode.config :=
      Configuration.readDocument_text (Configuration.isFinite_throughputs hformed) fun x hx => (hback x hx).1
    refine ⟨hjson, fun file' file'' surface => ?_⟩
    obtain ⟨hexit, hencoded⟩ := encode_of_read hjson file' surface
    obtain ⟨d', hread, hreport, hconfig⟩ :=
      Document.decode_text_encode surface hformed fun x hx => (hback x hx).2
    have haccepted : Accepted (encode file' surface (some d.decode.config.text)).output d' := by
      rw [hencoded]
      exact ⟨hread, fun x hx => by rw [hreport] at hx; cases hx⟩
    obtain ⟨hagain, hprinted⟩ := decode_of_accepted haccepted file''
    refine ⟨hexit, hagain, d'.decode.config, hprinted, ?_, hconfig⟩
    rw [hprinted]
    -- the last text may show other zeros than the first, so it is read back by agreement
    exact Configuration.readDocument_text (Configuration.isFinite_throughputs d'.wellFormed_decode)
      (Configuration.isReadBack_throughputs hconfig fun x hx => (hback x hx).1)

/-- A document with limits for a disk: one and a half, and zero with its sign. -/
def limited : String :=
  "[[disk]]\nslot = \"scsi0\"\ntype = \"disk\"\nstorage = \"local\"\nsize = \"8G\"\n" ++
  "mbps_r_burst = 1.5\nmbps_wr_burst = -0.0\n"

/-- The limits come back, zero without its sign. -/
theorem decode_encode_decode_limited : ∃ d, Accepted limited d ∧
    (∀ x ∈ d.decode.config.throughputs, Json.IsReadBack x ∧ Toml.IsReadBack x) ∧
    ∀ surface : Surface,
      let encoded := encode "config.json" surface (some (decode "disks.toml" (some limited)).output)
      let again := decode "again.toml" (some encoded.output)
      encoded.exit = 0 ∧ again.exit = 0 ∧
        ∃ c, again.output = c.text ∧ readDocument Configuration.read again.output = .ok c ∧
          (c == d.decode.config.written) = true := by
  let burst : Binary64 := ⟨false, 1023, 0x8000000000000⟩
  have h : (Document.read limited).toOption.any (fun d => !d.decode.report.hasErrors &&
      decide (d.decode.config.throughputs = [burst, .zero, .zeroOf true, .zero])) = true := by decide +kernel
  obtain ⟨d, hread, h⟩ := Document.exists_ok_of_any h
  rw [Bool.and_eq_true, Bool.not_eq_true', decide_eq_true_eq] at h
  obtain ⟨hreport, hthroughputs⟩ := h
  have hjson : Json.IsReadBack burst :=
    Json.isReadBack_of_parts (by decide +kernel : compact (.real burst) = "1.5") rfl (by decide +kernel)
  have hdigits : Decimal.digits 0 = ['0'] ∧ Decimal.digits 1 = ['1'] := by decide +kernel
  have hburst : Toml.IsReadBack burst := by
    have htext : (Toml.floats.write burst).toList = (if false then ['-'] else []) ++ ['1'] ++ '.' :: ['5'] := by
      decide +kernel
    exact Toml.isReadBack_of_parts rfl htext (hdigits.2 ▸ Toml.isNumeral_digits 1) (List.cons_ne_nil _ _)
      (List.forall_mem_singleton.2 rfl) (by decide +kernel)
  have hzero : ∀ negative, Toml.IsReadBack (.zeroOf negative) := by
    intro negative
    have htext : (Toml.floats.write (.zeroOf negative)).toList =
        (if negative then ['-'] else []) ++ ['0'] ++ '.' :: ['0'] := by
      cases negative <;> rfl
    refine Toml.isReadBack_of_parts rfl htext (hdigits.1 ▸ Toml.isNumeral_digits 0) (List.cons_ne_nil _ _)
      (List.forall_mem_singleton.2 rfl) ?_
    cases negative <;> rfl
  have hgood : ∀ x ∈ d.decode.config.throughputs, Json.IsReadBack x ∧ Toml.IsReadBack x := by
    rw [hthroughputs]
    refine List.forall_iff_forall_mem.1 ⟨⟨hjson, hburst⟩, ?_, ?_, ?_⟩
    · exact ⟨Json.isReadBack_of_isZero rfl, hzero false⟩
    · exact ⟨Json.isReadBack_of_isZero rfl, hzero true⟩
    · exact ⟨Json.isReadBack_of_isZero rfl, hzero false⟩
  have haccepted : Accepted limited d := accepted_iff.2 ⟨hread, hreport⟩
  obtain ⟨-, hruns⟩ := decode_encode_decode limited
  exact ⟨d, haccepted, hgood, ((hruns d haccepted "disks.toml").2 hgood).2 "config.json" "again.toml"⟩

end Command

end GuestDisks
