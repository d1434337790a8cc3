import ChrootScan.Proofs.Members
import ChrootScan.Proofs.Report.Conversion
import ChrootScan.Proofs.Report.Diagnostics
import ChrootScan.Proofs.Text.Paragraphs

/-!
# The shape of a conversion

What is written of a report is meant to be a sequence of blocks, each with a head, one line with the
place, and comments (`LaidOut`). It is one unless the place of a diagnostic takes several lines
(`laidOut_iff`).
-/

namespace ChrootScan.Clippy

/-! ## Blocks -/

/-- A line with a place: `path:line:column: level: message`. -/
def IsPlace (line : String) : Prop :=
  ∃ path row column level message, Text.IsRun Text.isDigit row ∧ Text.IsRun Text.isDigit column ∧
    line.toList =
      path ++ ':' :: (row ++ ':' :: (column ++ ':' :: ' ' :: (level ++ ':' :: ' ' :: message)))

/-- A line that is a comment. -/
def IsComment (line : String) : Prop :=
  line.toList.head? = some '#'

/-- A head, a line with the place, comments, and an empty line. -/
def IsBlock (text : String) : Prop :=
  ∃ place comments, Text.IsParagraph text ("Error: CLIPPY_WARNING:" :: place :: comments) ∧
    IsPlace place ∧ ∀ comment ∈ comments, IsComment comment

/-- A sequence of `count` blocks. -/
def LaidOut (count : Nat) (text : String) : Prop :=
  ∃ blocks : List String, blocks.length = count ∧ (∀ block ∈ blocks, IsBlock block) ∧
    text = String.join blocks

/-- A place that may take several lines, of which all but the first are comments. -/
def KeepsShape (place : String) : Prop :=
  ∃ first rest, Text.splitAt '\n' place = first :: rest ∧ IsPlace first ∧
    ∀ line ∈ rest, IsComment line

theorem IsPlace.ne_empty {line : String} (h : IsPlace line) : line ≠ "" := by
  obtain ⟨path, row, column, level, message, -, -, hline⟩ := h
  rintro rfl
  exact List.append_ne_nil_of_right_ne_nil _ (List.cons_ne_nil _ _) hline.symm

theorem IsComment.ne_empty {line : String} (h : IsComment line) : line ≠ "" := by
  rintro rfl
  cases h

/-- A block is a paragraph of lines that are not empty. -/
theorem IsBlock.isParagraph {text : String} (h : IsBlock text) :
    ∃ lines, Text.IsParagraph text lines ∧ "" ∉ lines := by
  obtain ⟨place, comments, hlines, hplace, hcomments⟩ := h
  refine ⟨_, hlines, ?_⟩
  intro hempty
  obtain hhead | hempty := List.mem_cons.1 hempty
  · exact absurd hhead (by decide)
  · obtain hfirst | hempty := List.mem_cons.1 hempty
    · exact hplace.ne_empty hfirst.symm
    · exact (hcomments _ hempty).ne_empty rfl

/-- Paragraphs that are put together are a sequence of as many blocks only if each is a block. -/
theorem laidOut_join_iff {texts : List String}
    (h : ∀ s ∈ texts, ∃ lines, Text.IsParagraph s lines) :
    LaidOut texts.length (String.join texts) ↔ ∀ s ∈ texts, IsBlock s := by
  constructor
  · rintro ⟨blocks, hlength, hblocks, hjoin⟩
    have hsame : texts = blocks := Text.eq_of_join_paragraphs hlength.symm h
      (fun block hblock => (hblocks block hblock).isParagraph) hjoin
    rwa [hsame]
  · intro hblocks
    exact ⟨texts, rfl, hblocks, rfl⟩

/-- One block is laid out exactly if its text is one. -/
theorem laidOut_one_iff {text : String} (h : ∃ lines, Text.IsParagraph text lines) :
    LaidOut 1 text ↔ IsBlock text := by
  have hjoin : String.join [text] = text := by
    rw [String.join_cons, String.join_nil, String.append_empty]
  have htexts : ∀ s ∈ [text], ∃ lines, Text.IsParagraph s lines := by
    intro s hs
    rwa [List.mem_singleton.1 hs]
  have hiff := laidOut_join_iff htexts
  rwa [hjoin, List.forall_mem_singleton] at hiff

/-! ## The block of a diagnostic -/

/-- What is read as a number is made of digits. -/
theorem colonNumber?_isRun {s digits rest : List Char} (h : colonNumber? s = some (digits, rest)) :
    Text.IsRun Text.isDigit digits := by
  unfold colonNumber? at h
  split at h
  · next s =>
    dsimp only at h
    split at h
    · cases h
    · next hne =>
      obtain ⟨rfl, -⟩ := Prod.mk.inj (Option.some.inj h)
      exact ⟨mt List.isEmpty_iff.2 hne, fun c hc => List.mem_takeWhile_imp hc⟩
  · cases h

/-- What is read as a position is two numbers. -/
theorem position?_isRun {s line column rest : List Char}
    (h : position? s = some (line, column, rest)) :
    Text.IsRun Text.isDigit line ∧ Text.IsRun Text.isDigit column := by
  obtain ⟨⟨digits, behind⟩, hline, h⟩ := Option.bind_eq_some_iff.1 h
  obtain ⟨⟨digits', behind'⟩, hcolumn, h⟩ := Option.map_eq_some_iff.1 h
  obtain ⟨rfl, rfl, rfl⟩ : digits = line ∧ digits' = column ∧ behind' = rest := by
    simpa using h
  exact ⟨colonNumber?_isRun hline, colonNumber?_isRun hcolumn⟩

/-- The place of a diagnostic has numbers for line and column. -/
theorem Diagnostic.isRun_of_ofRendered? {rendered : List Char} {d : Diagnostic}
    (h : Diagnostic.ofRendered? rendered = some d) :
    Text.IsRun Text.isDigit d.line ∧ Text.IsRun Text.isDigit d.column := by
  obtain ⟨⟨severity, rest⟩, -, h⟩ := Option.bind_eq_some_iff.1 h
  obtain ⟨⟨message, rest⟩, -, h⟩ := Option.bind_eq_some_iff.1 h
  obtain ⟨⟨file, line, column, excerpt⟩, hplace, h⟩ := Option.bind_eq_some_iff.1 h
  obtain rfl := Option.some.inj h
  obtain ⟨behind, -, hposition⟩ := Text.eq_append_of_cutWhere? hplace
  exact position?_isRun hposition

variable {d : Diagnostic} {dir : String}

/-- The line with the place of a diagnostic is a place, as its position is made of digits. -/
theorem Diagnostic.isPlace_placeLine (hline : Text.IsRun Text.isDigit d.line)
    (hcolumn : Text.IsRun Text.isDigit d.column) : IsPlace (d.placeLine dir) := by
  refine ⟨dir.toList ++ '/' :: d.file, d.line, d.column, d.severity, d.message, hline, hcolumn, ?_⟩
  simp [Diagnostic.placeLine]

/-- The comments of a block begin with the mark of one. -/
theorem Diagnostic.isComment_of_mem_comments {line : String} (h : line ∈ d.comments) :
    IsComment line := by
  obtain ⟨chars, -, rfl⟩ := List.mem_map.1 h
  rw [IsComment, String.toList_append]
  rfl

/-- The block of a diagnostic has the lines of its place behind the head, then the comments. -/
theorem Diagnostic.isParagraph_block (dir : String) (d : Diagnostic) :
    Text.IsParagraph (d.block dir)
      ("Error: CLIPPY_WARNING:" :: (Text.splitAt '\n' (d.placeLine dir) ++ d.comments)) := by
  have hhead : '\n' ∉ "Error: CLIPPY_WARNING:".toList := by decide
  have hcomments : ∀ line ∈ d.comments, '\n' ∉ line.toList := fun line hline =>
    d.not_mem_of_mem_comments hline
  have hplace : Text.splitAt '\n' (d.placeLine dir ++ "\n") =
      Text.splitAt '\n' (d.placeLine dir) ++ [""] := by
    rw [Text.splitAt, String.toList_append]
    show (Text.fields '\n' ((d.placeLine dir).toList ++ '\n' :: [])).map String.ofList = _
    rw [Text.fields_append_cons, List.map_append]
    rfl
  rw [Text.IsParagraph, d.block_eq, Text.splitAt_append_newline hhead,
    Text.splitAt_append_of_ended hplace, Text.splitAt_join_newline hcomments, List.cons_append,
    List.append_assoc]
  rfl

/-- The block of a diagnostic is one exactly if the line with its place keeps its shape. -/
theorem Diagnostic.isBlock_block_iff : IsBlock (d.block dir) ↔ KeepsShape (d.placeLine dir) := by
  have hcomments : ∀ line ∈ d.comments, IsComment line := fun line hline =>
    d.isComment_of_mem_comments hline
  constructor
  · rintro ⟨place, comments, hlines, hplace, hall⟩
    obtain ⟨first, rest, hsplit⟩ :=
      List.exists_cons_of_ne_nil (Text.splitAt_ne_nil '\n' (d.placeLine dir))
    have hsame := (d.isParagraph_block dir).paragraphLines_eq.symm.trans hlines.paragraphLines_eq
    rw [hsplit] at hsame
    obtain ⟨rfl, rfl⟩ := List.cons_eq_cons.1 (List.cons_eq_cons.1 hsame).2
    exact ⟨first, rest, hsplit, hplace, fun line hline => hall line (List.mem_append_left _ hline)⟩
  · rintro ⟨first, rest, hsplit, hplace, hrest⟩
    have hlines := d.isParagraph_block dir
    rw [hsplit] at hlines
    exact ⟨first, rest ++ d.comments, hlines, hplace, List.forall_mem_append.2 ⟨hrest, hcomments⟩⟩

/-! ## Reports -/

/-- A document has a diagnostic, placed in a directory. -/
def Places (document : Json) (dir : String) (d : Diagnostic) : Prop :=
  ∃ identifier rendered, CompilerMessage document identifier rendered ∧
    packageDir? (String.ofList identifier) = some dir ∧
    Diagnostic.ofRendered? (Text.trimChars rendered) = some d

/-- A document has a block exactly if it has a diagnostic that is placed in a directory. -/
theorem block?_eq_some_iff {document : Json} {block : String} :
    block? document = some block ↔ ∃ dir d, Places document dir d ∧ block = d.block dir := by
  constructor
  · intro h
    obtain ⟨value, hreason, h⟩ := Option.bind_eq_some_iff.1 h
    obtain ⟨reason, hvalue, h⟩ := Option.bind_eq_some_iff.1 h
    dsimp only at h
    split at h
    · cases h
    · next hsame =>
      obtain ⟨package, hpackage, h⟩ := Option.bind_eq_some_iff.1 h
      obtain ⟨identifier, hidentifier, h⟩ := Option.bind_eq_some_iff.1 h
      obtain ⟨dir, hdir, h⟩ := Option.bind_eq_some_iff.1 h
      obtain ⟨message, hmessage, h⟩ := Option.bind_eq_some_iff.1 h
      obtain ⟨text, htext, h⟩ := Option.bind_eq_some_iff.1 h
      obtain ⟨rendered, hrendered, h⟩ := Option.bind_eq_some_iff.1 h
      obtain ⟨d, hd, h⟩ := Option.bind_eq_some_iff.1 h
      rw [Json.string?_eq_some_iff.1 hvalue, not_not.1 hsame] at hreason
      rw [Json.string?_eq_some_iff.1 hidentifier, ← String.ofList_toList (s := identifier)] at hpackage
      rw [Json.string?_eq_some_iff.1 hrendered, ← String.ofList_toList (s := rendered)] at htext
      rw [← String.ofList_toList (s := identifier)] at hdir
      exact ⟨dir, d, ⟨identifier.toList, rendered.toList,
        ⟨hreason, hpackage, message, hmessage, htext⟩, hdir, hd⟩, (Option.some.inj h).symm⟩
  · rintro ⟨dir, d, ⟨identifier, rendered, hdocument, hdir, hd⟩, rfl⟩
    exact hdocument.block?_eq hdir hd

/-- A message of the build tool places its diagnostic in the directory of its package. -/
theorem places_compilerMessage_iff {identifier rendered : String} :
    Places (compilerMessage identifier rendered) dir d ↔
      packageDir? identifier = some dir ∧
        Diagnostic.ofRendered? (Text.trimChars rendered.toList) = some d := by
  constructor
  · rintro ⟨identifier', rendered', ⟨-, hidentifier, message, hmessage, hrendered⟩, hdir, hd⟩
    obtain rfl := Option.some.inj hmessage
    obtain rfl := Json.string.inj (Option.some.inj hidentifier)
    obtain rfl := Json.string.inj (Option.some.inj hrendered)
    rw [String.toList_ofList]
    exact ⟨hdir, hd⟩
  · rintro ⟨hdir, hd⟩
    refine ⟨identifier.toList, rendered.toList, compilerMessage_eq identifier rendered, ?_, hd⟩
    rwa [String.ofList_toList]

/-- The document on a line of a report. -/
def document? (line : ByteArray) : Option Json :=
  (Text.decode? line).bind Json.parse?

/-- What is converted of a line is the block of its document. -/
theorem convertLine_eq_ok {number : Nat} {line : ByteArray} {found : Option String}
    (h : convertLine number line = .ok found) : found = (document? line).bind block? := by
  unfold convertLine at h
  cases htext : Text.decode? line with
  | none =>
    rw [htext] at h
    cases h
  | some text =>
    rw [htext] at h
    dsimp only at h
    rw [document?, htext, Option.bind_some]
    split at h
    · next hblank =>
      have hnone : Json.parse? (String.ofList text.toList) = none :=
        Json.parse?_of_blank (List.all_eq_true.1 hblank)
      rw [String.ofList_toList] at hnone
      rw [hnone, ← Except.ok.inj h]
      rfl
    · cases hdocument : Json.parse? text with
      | none =>
        rw [hdocument] at h
        cases h
      | some document =>
        rw [hdocument] at h
        exact (Except.ok.inj h).symm

/-- A conversion that does not end early writes the blocks of the documents on all lines. -/
theorem convertLines_eq_ok {number : Nat} {lines : List ByteArray} {blocks : List String}
    (h : convertLines number lines = (blocks, .ok ())) :
    blocks = lines.filterMap fun line => (document? line).bind block? := by
  induction lines generalizing number blocks with
  | nil => exact (Prod.mk.inj h).1.symm
  | cons line lines ih =>
    rw [convertLines] at h
    cases hline : convertLine number line with
    | error e =>
      rw [hline] at h
      cases h
    | ok found =>
      rw [hline] at h
      dsimp only at h
      obtain ⟨hblocks, houtcome⟩ := Prod.mk.inj h
      have hrest : (convertLines (number + 1) lines).1 = _ := ih (Prod.ext rfl houtcome)
      rw [hrest, convertLine_eq_ok hline] at hblocks
      rw [← hblocks, List.filterMap_cons]
      cases (document? line).bind block? with
      | none => rfl
      | some block => rfl

/-- A conversion that succeeds writes the blocks of all documents. -/
theorem convert_eq_ok {report : ByteArray} {text : String} {count : Nat}
    (h : convert report = (text, .ok count)) :
    ∃ blocks : List String, text = String.join blocks ∧ count = blocks.length ∧
      ∀ block, block ∈ blocks ↔ ∃ line ∈ Text.byteLines report, ∃ document,
        document? line = some document ∧ block? document = some block := by
  rcases hlines : convertLines 1 (Text.byteLines report) with ⟨blocks, e | ⟨⟩⟩
  · rw [convert, hlines] at h
    cases h
  · rw [convert, hlines] at h
    obtain ⟨rfl, hcount⟩ := Prod.mk.inj h
    refine ⟨blocks, rfl, (Except.ok.inj hcount).symm, fun block => ?_⟩
    rw [convertLines_eq_ok hlines, List.mem_filterMap]
    simp only [Option.bind_eq_some_iff]

/-- A report of one line, which is a document with a block. -/
theorem convert_line {report : String} {line : List Char} {document : Json} {block : String}
    (hlines : Text.linesChars report.toList = [line])
    (hdocument : Json.parse? (String.ofList line) = some document)
    (hblock : block? document = some block) :
    convert (Text.encode report) = (block, .ok 1) := by
  have hreadable : ∀ l ∈ [line], Readable l := by
    intro l hl
    rw [List.mem_singleton.1 hl]
    exact .document hdocument
  have hfound : lineBlock? line = some block := by
    rw [lineBlock?, hdocument, Option.bind_some, hblock]
  rw [convert_encode_of_readable (by rwa [hlines]), hlines, List.filterMap_cons_some hfound]
  rfl

/-- A conversion that does not end early writes a sequence of as many blocks as it counts, exactly
if every place that takes several lines goes on with comments behind a first line that has the form
of a place. -/
theorem laidOut_iff {report : ByteArray} {text : String} {count : Nat}
    (h : convert report = (text, .ok count)) :
    LaidOut count text ↔
      ∀ line ∈ Text.byteLines report, ∀ document, document? line = some document →
        ∀ dir d, Places document dir d → '\n' ∈ (d.placeLine dir).toList →
          KeepsShape (d.placeLine dir) := by
  obtain ⟨blocks, rfl, rfl, hblocks⟩ := convert_eq_ok h
  have hparagraphs : ∀ block ∈ blocks, ∃ lines, Text.IsParagraph block lines := by
    intro block hblock
    obtain ⟨line, -, document, -, hdocument⟩ := (hblocks block).1 hblock
    obtain ⟨dir, d, -, rfl⟩ := block?_eq_some_iff.1 hdocument
    exact ⟨_, d.isParagraph_block dir⟩
  rw [laidOut_join_iff hparagraphs]
  constructor
  · intro hall line hline document hdocument dir d hplaces _
    have hblock : block? document = some (d.block dir) :=
      block?_eq_some_iff.2 ⟨dir, d, hplaces, rfl⟩
    exact Diagnostic.isBlock_block_iff.1
      (hall _ ((hblocks _).2 ⟨line, hline, document, hdocument, hblock⟩))
  · intro hall block hblock
    obtain ⟨line, hline, document, hdocument, hblock⟩ := (hblocks block).1 hblock
    obtain ⟨dir, d, hplaces, rfl⟩ := block?_eq_some_iff.1 hblock
    rw [Diagnostic.isBlock_block_iff]
    -- on one line, the place has its shape by what the diagnostic was read from
    by_cases hnewline : '\n' ∈ (d.placeLine dir).toList
    · exact hall line hline document hdocument dir d hplaces hnewline
    · obtain ⟨identifier, rendered, -, -, hd⟩ := hplaces
      obtain ⟨hrow, hcolumn⟩ := Diagnostic.isRun_of_ofRendered? hd
      have hplace : IsPlace (d.placeLine dir) := Diagnostic.isPlace_placeLine hrow hcolumn
      exact ⟨_, [], Text.splitAt_of_not_mem hnewline, hplace, nofun⟩

/-- A message of two lines, the second of which begins like a comment. -/
def commentMessage : String :=
  "\x7b\"message\":\x7b\"rendered\":\"error: e\\n# f\\n --> s.rs:1:1\"\x7d,\"package_id\":\"path+file:///builddir/build/BUILD/a\",\"reason\":\"compiler-message\"\x7d"

/-- The second line of the message is taken for a comment. -/
theorem laidOut_iff_comment :
    let text := "Error: CLIPPY_WARNING:\n/builddir/build/BUILD/a/s.rs:1:1: error: e\n# f\n\n"
    convert (Text.encode (commentMessage ++ "\n")) = (text, .ok 1) ∧ LaidOut 1 text := by
  intro text
  have hlines : Text.linesChars (commentMessage ++ "\n").toList = [commentMessage.toList] := by
    decide +kernel
  have hdocument : Json.parse? commentMessage = some (compilerMessage
      "path+file:///builddir/build/BUILD/a" "error: e\n# f\n --> s.rs:1:1") := by
    cbv
  have hdir : packageDir? "path+file:///builddir/build/BUILD/a" =
      some "/builddir/build/BUILD/a" := by
    decide +kernel
  have hd : Diagnostic.ofRendered? (Text.trimChars "error: e\n# f\n --> s.rs:1:1".toList) =
      some ⟨"error".toList, "e\n# f".toList, "s.rs".toList, "1".toList, "1".toList, []⟩ := by
    decide +kernel
  have hconvert : convert (Text.encode (commentMessage ++ "\n")) = (text, .ok 1) := by
    apply convert_line hlines
    · rw [String.ofList_toList, hdocument]
    · exact block?_eq_some_iff.2 ⟨_, _, places_compilerMessage_iff.2 ⟨hdir, hd⟩, by decide +kernel⟩
  refine ⟨hconvert, (laidOut_iff hconvert).2 ?_⟩
  intro bytes hbytes document hread dir d hplaces _
  rw [Text.byteLines_encode, hlines, List.map_singleton, List.mem_singleton] at hbytes
  rw [hbytes, document?, Text.decode?_encode, String.ofList_toList, Option.bind_some,
    hdocument] at hread
  rw [← Option.some.inj hread, places_compilerMessage_iff, hdir, hd] at hplaces
  obtain ⟨⟨⟩, ⟨⟩⟩ := hplaces
  refine ⟨"/builddir/build/BUILD/a/s.rs:1:1: error: e", ["# f"], by decide +kernel, ?_, ?_⟩
  · exact ⟨"/builddir/build/BUILD/a/s.rs".toList, "1".toList, "1".toList, "error".toList,
      "e".toList, by decide, by decide, by decide⟩
  · intro line hline
    rw [List.mem_singleton.1 hline]
    rfl

/-- A message of two lines, as a macro may give it. -/
def twoLineMessage : String :=
  "\x7b\"message\":\x7b\"rendered\":\"error: e\\n       f\\n --> s.rs:1:1\"\x7d,\"package_id\":\"path+file:///builddir/build/BUILD/a\",\"reason\":\"compiler-message\"\x7d"

/-- The second line of the message is neither a comment nor empty. -/
theorem not_laidOut_twoLineMessage :
    let text := "Error: CLIPPY_WARNING:\n/builddir/build/BUILD/a/s.rs:1:1: error: e\n       f\n\n"
    convert (Text.encode (twoLineMessage ++ "\n")) = (text, .ok 1) ∧ ¬ LaidOut 1 text := by
  intro text
  have hlines : Text.linesChars (twoLineMessage ++ "\n").toList = [twoLineMessage.toList] := by
    decide +kernel
  have hdocument : Json.parse? twoLineMessage = some (compilerMessage
      "path+file:///builddir/build/BUILD/a" "error: e\n       f\n --> s.rs:1:1") := by
    cbv
  refine ⟨?_, ?_⟩
  · apply convert_line hlines
    · rw [String.ofList_toList, hdocument]
    · decide +kernel
  · have hsplit : Text.IsParagraph text ["Error: CLIPPY_WARNING:",
        "/builddir/build/BUILD/a/s.rs:1:1: error: e", "       f"] := by
      rw [Text.IsParagraph]
      decide +kernel
    rw [laidOut_one_iff ⟨_, hsplit⟩]
    rintro ⟨place, comments, hblock, -, hcomments⟩
    have hsame := hblock.paragraphLines_eq.symm.trans hsplit.paragraphLines_eq
    obtain ⟨-, rfl⟩ := List.cons_eq_cons.1 (List.cons_eq_cons.1 hsame).2
    have hcomment : IsComment "       f" := hcomments _ (List.mem_singleton_self _)
    cases hcomment

end ChrootScan.Clippy
