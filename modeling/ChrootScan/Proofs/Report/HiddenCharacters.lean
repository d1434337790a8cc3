import ChrootScan.Proofs.Text.Utf8
import ChrootScan.Report.UnicodeControl

/-!
# Hidden characters and what hides them

In a file that is UTF-8 a line is reported exactly if the bytes of a character that is looked for
occur in it. A file that is not is read byte by byte as Latin-1, and then the soft hyphen is the only
character that can be found (`reported_iff`): one stray byte keeps all others in the file from being
reported.
-/

namespace ChrootScan.UnicodeControl

/-! ## Characters -/

namespace CharSet

/-- The end of a line is not looked for. -/
theorem contains_return (set : CharSet) : set.contains '\r' = false := by
  cases set with
  | format => decide
  | all => decide
  | bidi => decide

/-- The character that Latin-1 has for a byte. -/
def latin (b : UInt8) : Char :=
  Char.ofNat b.toNat

theorem toNat_latin (b : UInt8) : (latin b).toNat = b.toNat := by
  have hsmall : ∀ n : Fin 256, (Char.ofNat n).toNat = n := by decide +kernel
  exact hsmall ⟨b.toNat, b.toNat_lt⟩

theorem latin_injective : Function.Injective latin := by
  intro a b h
  have hnat := congrArg Char.toNat h
  rw [toNat_latin, toNat_latin] at hnat
  exact UInt8.toNat_inj.1 hnat

/-- Of the characters of Latin-1 only the soft hyphen is looked for. -/
theorem contains_latin_iff (set : CharSet) (b : UInt8) :
    set.contains (latin b) = true ↔ b = 0xAD ∧ set ≠ .bidi := by
  have hbytes : ∀ n : Fin 256,
      (set.contains (Char.ofNat n) = true ↔ n = 0xAD ∧ set ≠ .bidi) := by
    cases set with
    | format => decide +kernel
    | all => decide +kernel
    | bidi => decide +kernel
  have hb := hbytes ⟨b.toNat, b.toNat_lt⟩
  rw [latin, hb, ← UInt8.toNat_inj, Fin.ext_iff]
  rfl

end CharSet

namespace Scanner

variable (s : Scanner)

/-! ## Files that are read -/

/-- Patterns leave a file out, by its path or by its media type. -/
def excludes (shown type : String) : Bool :=
  isProse shown || (s.skipTests && isTest shown) || s.skipPaths.any (·.occursIn shown)
    || isMarkup type || s.skipTypes.any (·.occursIn type)

/-- Without a NUL byte near its start, a file is text. -/
theorem startsWith_mediaType (path : String) {bytes : ByteArray}
    (hnul : 0 ∉ bytes.toList.take headLength) :
    Text.startsWith "text/" (mediaType path bytes) = true := by
  have hlisted : ∀ entry ∈ mediaTypes, Text.startsWith "text/" entry.1 = true := by decide
  have hcontains : (bytes.extract 0 headLength).toList.contains 0 = false := by
    rw [Text.toList_extract]
    simpa using hnul
  rw [mediaType, hcontains, if_neg Bool.false_ne_true]
  dsimp only
  cases hfind : mediaTypes.find? fun entry =>
      entry.2.contains (Text.lowercase ((Path.extension? path).getD "")) with
  | none => decide
  | some entry => exact hlisted entry (List.mem_of_find?_eq_some hfind)

theorem reads_of_not_excludes {shown type : String} (htext : Text.startsWith "text/" type = true)
    (h : s.excludes shown type = false) : s.reads shown type = true := by
  unfold excludes at h
  simp only [Bool.or_eq_false_iff] at h
  obtain ⟨⟨⟨⟨hprose, htests⟩, hpaths⟩, hmarkup⟩, htypes⟩ := h
  rw [reads, hprose, htests, hpaths, htext, hmarkup, htypes]
  rfl

/-! ## Findings -/

/-- A line has a finding exactly if it has a character that is looked for, and then the finding has
its number. -/
theorem inspect_cases (line : List Char) (n : Nat) :
    (s.inspect (line, n) = none ∧ ∀ c ∈ line, s.chars.contains c = false) ∨
      ∃ f, s.inspect (line, n) = some f ∧ f.line = n + 1 ∧ ∃ c ∈ line, s.chars.contains c = true := by
  cases hhits : s.hits line with
  | nil =>
    refine .inl ⟨by rw [inspect, hhits], fun c hc => ?_⟩
    obtain ⟨i, hi⟩ := List.mem_iff_getElem?.1 hc
    have hnone := List.filter_eq_nil_iff.1 hhits (c, i) (List.mk_mem_zipIdx_iff_getElem?.2 hi)
    exact Bool.eq_false_of_not_eq_true hnone
  | cons hit hits =>
    have hmem : hit ∈ s.hits line := by
      rw [hhits]
      exact List.mem_cons_self
    obtain ⟨hline, hcontains⟩ := List.mem_filter.1 hmem
    refine .inr ⟨_, by rw [inspect, hhits], rfl, hit.1, ?_, hcontains⟩
    exact List.fst_mem_of_mem_zipIdx hline

theorem mem_findings_iff {text : String} {f : Finding} :
    f ∈ s.findings text ↔
      ∃ n line, (Text.linesChars text.toList)[n]? = some line ∧ s.inspect (line, n) = some f := by
  rw [findings, List.mem_filterMap]
  constructor
  · rintro ⟨⟨line, n⟩, hline, hinspect⟩
    exact ⟨n, line, List.mk_mem_zipIdx_iff_getElem?.1 hline, hinspect⟩
  · rintro ⟨n, line, hline, hinspect⟩
    exact ⟨(line, n), List.mk_mem_zipIdx_iff_getElem?.2 hline, hinspect⟩

/-- The line with a number is reported exactly if a character in it is looked for. -/
theorem exists_finding_iff_line (text : String) (n : Nat) :
    (∃ f ∈ s.findings text, f.line = n + 1) ↔
      ∃ line ∈ (Text.linesChars text.toList)[n]?, ∃ c ∈ line, s.chars.contains c = true := by
  constructor
  · rintro ⟨f, hf, hn⟩
    obtain ⟨i, line, hline, hinspect⟩ := s.mem_findings_iff.1 hf
    obtain ⟨hnone, -⟩ | ⟨f', hsome, hi, hc⟩ := s.inspect_cases line i
    · rw [hnone] at hinspect
      cases hinspect
    · rw [hinspect] at hsome
      obtain rfl := Option.some.inj hsome
      obtain rfl : i = n := by omega
      exact ⟨line, hline, hc⟩
  · rintro ⟨line, hline, c, hc, hcontains⟩
    obtain ⟨-, hnone⟩ | ⟨f, hsome, hi, -⟩ := s.inspect_cases line n
    · rw [hnone c hc] at hcontains
      cases hcontains
    · exact ⟨f, s.mem_findings_iff.2 ⟨n, line, hline, hsome⟩, hi⟩

/-- The same for the field between newlines with that number. -/
theorem exists_finding_iff (text : String) (n : Nat) :
    (∃ f ∈ s.findings text, f.line = n + 1) ↔
      ∃ piece ∈ (Text.fields '\n' text.toList)[n]?, ∃ c ∈ piece, s.chars.contains c = true := by
  -- the carriage return in front of a newline is in the field, though not in the line
  have hreturn : ¬ s.chars.contains '\r' = true := by
    rw [s.chars.contains_return]
    exact Bool.false_ne_true
  rw [exists_finding_iff_line, Text.exists_mem_linesChars_iff hreturn]

end Scanner

/-! ## Reports -/

/-- A report has a block for each of these findings, in order, and counts them. -/
structure Report.Lists (r : Report) (s : Scanner) (shown : String)
    (found : List Scanner.Finding) : Prop where
  count : r.count = found.length
  out : r.out = String.join (found.map (s.block shown))

namespace Scanner

variable {s : Scanner} {path shown : String} {bytes : ByteArray}

/-- The report of a text that no pattern leaves out lists the findings in it. -/
theorem lists_scanFile (hnul : 0 ∉ bytes.toList.take headLength)
    (hread : s.excludes shown (mediaType path bytes) = false) :
    (s.scanFile path shown bytes).Lists s shown (s.findings (decode bytes).1) := by
  have hreads := s.reads_of_not_excludes (startsWith_mediaType path hnul) hread
  rw [scanFile, hreads, Bool.not_true, if_neg Bool.false_ne_true]
  exact ⟨rfl, rfl⟩

/-- In a file that is UTF-8, the findings are in the lines that the bytes of a character which is
looked for occur in. -/
theorem exists_finding_iff_of_valid (hvalid : bytes.IsValidUTF8) {n : Nat} {line : List UInt8}
    (hline : (Text.fields 10 bytes.toList)[n]? = some line) :
    (∃ f ∈ s.findings (decode bytes).1, f.line = n + 1) ↔
      ∃ c, s.chars.contains c = true ∧ String.utf8EncodeChar c <:+: line := by
  obtain ⟨text, htext⟩ := Option.isSome_iff_exists.1 (Text.decode?_isSome.2 hvalid)
  have hdecode : (decode bytes).1 = text := by
    rw [decode, htext]
  rw [Text.toList_of_decode? htext, Text.fields_encodeChars, List.getElem?_map] at hline
  obtain ⟨piece, hpiece, rfl⟩ := Option.map_eq_some_iff.1 hline
  rw [hdecode, s.exists_finding_iff, hpiece]
  constructor
  · rintro ⟨_, hmem, c, hc, hcontains⟩
    obtain rfl := Option.mem_some_iff.1 hmem
    exact ⟨c, hcontains, Text.infix_encodeChars_iff.2 hc⟩
  · rintro ⟨c, hcontains, hinfix⟩
    exact ⟨piece, rfl, c, Text.infix_encodeChars_iff.1 hinfix, hcontains⟩

/-- In a file that is not UTF-8, the findings are in the lines with a soft hyphen of Latin-1. -/
theorem exists_finding_iff_of_not_valid (hvalid : ¬ bytes.IsValidUTF8) {n : Nat}
    {line : List UInt8} (hline : (Text.fields 10 bytes.toList)[n]? = some line) :
    (∃ f ∈ s.findings (decode bytes).1, f.line = n + 1) ↔ 0xAD ∈ line ∧ s.chars ≠ .bidi := by
  have hnone : Text.decode? bytes = none := by
    rw [← Option.not_isSome_iff_eq_none, Text.decode?_isSome]
    exact hvalid
  have hdecode : (decode bytes).1.toList = bytes.toList.map CharSet.latin := by
    rw [decode, hnone]
    exact String.toList_ofList
  -- every byte is a character, so the text is cut where the bytes are
  have hnewline : '\n' = CharSet.latin 10 := rfl
  rw [s.exists_finding_iff, hdecode, hnewline, Text.fields_map CharSet.latin_injective,
    List.getElem?_map, hline]
  constructor
  · rintro ⟨_, hmem, c, hc, hcontains⟩
    obtain rfl := Option.mem_some_iff.1 hmem
    obtain ⟨b, hb, rfl⟩ := List.mem_map.1 hc
    obtain ⟨rfl, hset⟩ := (s.chars.contains_latin_iff b).1 hcontains
    exact ⟨hb, hset⟩
  · rintro ⟨hb, hset⟩
    exact ⟨_, rfl, CharSet.latin 0xAD, List.mem_map_of_mem hb,
      (s.chars.contains_latin_iff _).2 ⟨rfl, hset⟩⟩

/-- A text that no pattern leaves out is reported with a block for each of its findings. If it is
UTF-8, these are in exactly those of its lines that the bytes of a character which is looked for
occur in; if it is not, in those that have a soft hyphen of Latin-1. -/
theorem reported_iff (s : Scanner) (path shown : String) (bytes : ByteArray)
    (hnul : 0 ∉ bytes.toList.take headLength)
    (hread : s.excludes shown (mediaType path bytes) = false) :
    ∃ found, (s.scanFile path shown bytes).Lists s shown found ∧
      ∀ n line, (Text.fields 10 bytes.toList)[n]? = some line →
        (bytes.IsValidUTF8 → ((∃ f ∈ found, f.line = n + 1) ↔
          ∃ c, s.chars.contains c = true ∧ String.utf8EncodeChar c <:+: line)) ∧
        (¬ bytes.IsValidUTF8 → ((∃ f ∈ found, f.line = n + 1) ↔
          0xAD ∈ line ∧ s.chars ≠ .bidi)) := by
  refine ⟨s.findings (decode bytes).1, lists_scanFile hnul hread, ?_⟩
  intro n line hline
  constructor
  · intro hvalid
    exact exists_finding_iff_of_valid hvalid hline
  · intro hvalid
    exact exists_finding_iff_of_not_valid hvalid hline

/-- An override is found in the first line of a text and nothing in the second; and so is a soft
hyphen in a file of Latin-1. -/
theorem reported_override :
    (let s : Scanner := { chars := .bidi }
      let bytes : ByteArray := ⟨#[0x61, 0xE2, 0x80, 0xAE, 0x0D, 0x0A, 0x62]⟩
      ∃ found, (s.scanFile "src/a.c" "src/a.c" bytes).Lists s "src/a.c" found ∧
        (∃ f ∈ found, f.line = 1) ∧ ¬ ∃ f ∈ found, f.line = 2) ∧
      (let s : Scanner := { chars := .format }
        let bytes : ByteArray := ⟨#[0x63, 0x61, 0x66, 0xE9, 0xAD]⟩
        ∃ found, (s.scanFile "src/a.c" "src/a.c" bytes).Lists s "src/a.c" found ∧
          ∃ f ∈ found, f.line = 1) := by
  refine ⟨?_, ?_⟩
  · intro s bytes
    obtain ⟨found, hlists, hlines⟩ :=
      s.reported_iff "src/a.c" "src/a.c" bytes (by decide +kernel) (by decide +kernel)
    have hvalid : bytes.IsValidUTF8 := by decide +kernel
    have hfirst := (hlines 0 [0x61, 0xE2, 0x80, 0xAE, 0x0D] (by decide +kernel)).1 hvalid
    have hsecond := (hlines 1 [0x62] (by decide +kernel)).1 hvalid
    refine ⟨found, hlists, hfirst.2 ?_, fun h => ?_⟩
    · exact ⟨Char.ofNat 0x202E, by decide, [0x61], [0x0D], by decide⟩
    · obtain ⟨c, hcontains, hinfix⟩ := hsecond.1 h
      -- the bytes of the second line are those of a single letter
      have hletter : String.utf8EncodeChar c <:+: Text.encodeChars ['b'] := hinfix
      obtain rfl := List.mem_singleton.1 (Text.infix_encodeChars_iff.1 hletter)
      exact absurd hcontains (by decide)
  · intro s bytes
    obtain ⟨found, hlists, hlines⟩ :=
      s.reported_iff "src/a.c" "src/a.c" bytes (by decide +kernel) (by decide +kernel)
    have hline := (hlines 0 [0x63, 0x61, 0x66, 0xE9, 0xAD] (by decide +kernel)).2 (by decide +kernel)
    exact ⟨found, hlists, hline.2 ⟨by decide, by decide⟩⟩

/-- An override is in the first line, and the stray byte behind it keeps it from being reported. -/
theorem override_hidden_by_stray_byte :
    let s : Scanner := { chars := .bidi }
    let bytes : ByteArray := ⟨#[0xE2, 0x80, 0xAE, 0xFF, 0x0A]⟩
    0 ∉ bytes.toList.take headLength ∧
      s.excludes "src/a.c" (mediaType "src/a.c" bytes) = false ∧
      (∃ line, (Text.fields 10 bytes.toList)[0]? = some line ∧
        ∃ c, s.chars.contains c = true ∧ String.utf8EncodeChar c <:+: line) ∧
      s.scanFile "src/a.c" "src/a.c" bytes =
        { log := "src/a.c: Retrying with latin1\nsrc/a.c: OK\n" } := by
  intro s bytes
  refine ⟨by decide +kernel, by decide +kernel, ?_, by decide +kernel⟩
  refine ⟨[0xE2, 0x80, 0xAE, 0xFF], by decide +kernel, Char.ofNat 0x202E, by decide, ?_⟩
  exact ⟨[], [0xFF], by decide⟩

end Scanner

end ChrootScan.UnicodeControl
