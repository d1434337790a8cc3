import ChrootScan.Proofs.Text.Blanks
import ChrootScan.Proofs.Text.Lines
import ChrootScan.Proofs.Text.Utf8
import ChrootScan.Report.Clippy

/-!
# Conversion line by line

A report is converted as far as its lines can be read. Each line that is a document with a block adds
it to what is written, and the first line that is neither blank nor a document ends the conversion
with a failure that has its number (`convert_lines`).
-/

namespace ChrootScan

/-! ## Blank lines are no documents -/

namespace Json

/-- No blank is a digit. -/
theorem isDigit_of_isBlank {c : Char} (h : Text.isBlank c = true) : isDigit c = false := by
  by_contra hdigit
  rw [Bool.not_eq_false, isDigit, Bool.and_eq_true, decide_eq_true_eq, decide_eq_true_eq] at hdigit
  rw [Text.isBlank_eq_false_of_isDigit (Text.isDigit_of_toNat hdigit.1 hdigit.2)] at h
  cases h

/-- A number begins with a digit, or with a sign in front of one. -/
theorem readNumber?_of_not_digit {negative : Bool} {c : Char} {rest : Input}
    (h : isDigit c = false) : readNumber? negative (c :: rest) = none := by
  simp [readNumber?, takeDigits, h]

/-- No value begins with a blank that JSON does not skip. -/
theorem readValue?_of_blank {s : Input} (h : ∀ c ∈ s, Text.isBlank c = true) (fuel depth : Nat) :
    readValue? fuel depth s = none := by
  cases fuel with
  | zero => rw [readValue?]
  | succ fuel =>
    have hblank : ∀ c ∈ skipSpace s, Text.isBlank c = true := by
      intro c hc
      exact h c ((List.dropWhile_sublist _).subset hc)
    have hhead {c : Char} {rest : Input} (hc : Text.isBlank c = false) :
        skipSpace s ≠ c :: rest := by
      intro hs
      rw [hs] at hblank
      exact absurd (hblank c List.mem_cons_self) (Bool.eq_false_iff.1 hc)
    rw [readValue?]
    split
    -- only the number is left: each of the other forms begins with a character of its own
    case h_8 =>
      cases hs : skipSpace s with
      | nil => rfl
      | cons c rest =>
        have hc : Text.isBlank c = true := hblank c (by rw [hs]; exact List.mem_cons_self)
        rw [readNumber?_of_not_digit (isDigit_of_isBlank hc)]
        rfl
    all_goals exact absurd (by assumption) (hhead (by decide))

/-- A blank line is no document. -/
theorem parse?_of_blank {line : List Char} (h : ∀ c ∈ line, Text.isBlank c = true) :
    parse? (String.ofList line) = none := by
  unfold parse?
  simp only [String.toList_ofList]
  rw [readValue?_of_blank h]

end Json

namespace Clippy

variable {line : List Char}

/-! ## One line -/

/-- A line that does not end the conversion: a blank one, or a document. -/
inductive Readable (line : List Char) : Prop
  | blank : (∀ c ∈ line, Text.isBlank c = true) → Readable line
  | document {document : Json} : Json.parse? (String.ofList line) = some document → Readable line

/-- The block of a line that is a document which has one. -/
def lineBlock? (line : List Char) : Option String :=
  (Json.parse? (String.ofList line)).bind block?

/-- The failure at a line that is no document. -/
def notDocument (number : Nat) : Failure :=
  (Failure.ofText "not a JSON document").within
    ("rust-clippy: Error while converting results (line " ++ toString number ++ ")")

/-- A line of text is blank, a document, or a failure. -/
theorem convertLine_encode (number : Nat) (line : List Char) :
    convertLine number (Text.encode (String.ofList line)) =
      if line.all Text.isBlank then .ok none
      else
        match Json.parse? (String.ofList line) with
        | some document => .ok (block? document)
        | none => .error (notDocument number) := by
  unfold convertLine Text.isBlankText
  rw [Text.decode?_encode]
  simp only [String.toList_ofList]
  rfl

/-- A line that can be read gives its block, if it has one. -/
theorem convertLine_of_readable (h : Readable line) (number : Nat) :
    convertLine number (Text.encode (String.ofList line)) = .ok (lineBlock? line) := by
  rw [convertLine_encode, lineBlock?]
  cases h with
  | blank h =>
    rw [if_pos (List.all_eq_true.2 h), Json.parse?_of_blank h]
    rfl
  | document h =>
    have hnot : ¬ line.all Text.isBlank = true := by
      intro hblank
      rw [Json.parse?_of_blank (List.all_eq_true.1 hblank)] at h
      cases h
    rw [if_neg hnot, h]
    rfl

/-- A line that cannot be read is a failure with its number. -/
theorem convertLine_of_not_readable (h : ¬ Readable line) (number : Nat) :
    convertLine number (Text.encode (String.ofList line)) = .error (notDocument number) := by
  have hnot : ¬ line.all Text.isBlank = true := fun hblank => h (.blank (List.all_eq_true.1 hblank))
  rw [convertLine_encode, if_neg hnot]
  cases hdocument : Json.parse? (String.ofList line) with
  | none => rfl
  | some document => exact absurd (.document hdocument) h

/-! ## All lines -/

/-- Lines that can be read add their blocks in front of what the lines behind them give. -/
theorem convertLines_append (number : Nat) {before : List (List Char)} (after : List ByteArray)
    (h : ∀ line ∈ before, Readable line) :
    convertLines number
        ((before.map fun line => Text.encode (String.ofList line)) ++ after) =
      (before.filterMap lineBlock? ++ (convertLines (number + before.length) after).1,
        (convertLines (number + before.length) after).2) := by
  induction before generalizing number with
  | nil => rfl
  | cons line before ih =>
    obtain ⟨hline, hbefore⟩ := List.forall_mem_cons.1 h
    rw [List.map_cons, List.cons_append, convertLines, convertLine_of_readable hline]
    simp only [ih (number + 1) hbefore]
    rw [show number + 1 + before.length = number + (line :: before).length by
      rw [List.length_cons]; omega]
    cases hblock : lineBlock? line with
    | none => rw [List.filterMap_cons_none hblock]; rfl
    | some block => rw [List.filterMap_cons_some hblock]; rfl

/-- A report that can be read line by line gives all its blocks, and their number. -/
theorem convert_encode_of_readable {report : String}
    (h : ∀ line ∈ Text.linesChars report.toList, Readable line) :
    convert (Text.encode report) =
      (String.join ((Text.linesChars report.toList).filterMap lineBlock?),
        .ok ((Text.linesChars report.toList).filterMap lineBlock?).length) := by
  have hlines := convertLines_append 1 [] h
  rw [List.append_nil, ← Text.byteLines_encode, convertLines, List.append_nil] at hlines
  unfold convert
  rw [hlines]
  rfl

/-- The first line that cannot be read ends the conversion, with its number. -/
theorem convert_encode_of_not_readable {report : String} {before after : List (List Char)}
    (hlines : Text.linesChars report.toList = before ++ line :: after)
    (h : ∀ line ∈ before, Readable line) (hline : ¬ Readable line) :
    convert (Text.encode report) =
      (String.join (before.filterMap lineBlock?), .error (notDocument (before.length + 1))) := by
  have hconvert := convertLines_append 1
    ((line :: after).map fun line => Text.encode (String.ofList line)) h
  rw [← List.map_append, ← hlines, ← Text.byteLines_encode, List.map_cons, convertLines,
    convertLine_of_not_readable hline] at hconvert
  simp only [List.append_nil] at hconvert
  unfold convert
  rw [hconvert, Nat.add_comm]
  rfl

/-- If every line can be read, the blocks of those lines that have one are written, in order, and
counted, and a report that ends with a newline can be converted apart from what follows it. If not,
the blocks of the lines before the first that cannot be read are written, and the failure has the
number of that line. -/
theorem convert_lines {report : String} {lines : List (List Char)}
    (hlines : Text.Lined report.toList lines) :
    ((∀ line ∈ lines, Readable line) →
      convert (Text.encode report) =
        (String.join (lines.filterMap lineBlock?), .ok (lines.filterMap lineBlock?).length)) ∧
    (∀ (next : String) (nextLines : List (List Char)), Text.Lined next.toList nextLines →
      (∀ line ∈ lines ++ nextLines, Readable line) → report.toList.getLast? = some '\n' →
      ∃ n m, (convert (Text.encode report)).2 = .ok n ∧ (convert (Text.encode next)).2 = .ok m ∧
        convert (Text.encode (report ++ next)) =
          ((convert (Text.encode report)).1 ++ (convert (Text.encode next)).1, .ok (n + m))) ∧
    (∀ before line after, lines = before ++ line :: after → (∀ l ∈ before, Readable l) →
      ¬ Readable line →
      ∃ e, convert (Text.encode report) = (String.join (before.filterMap lineBlock?), .error e) ∧
        e.brief = "rust-clippy: Error while converting results (line " ++
          toString (before.length + 1) ++ ")") := by
  obtain rfl := Text.lined_iff.1 hlines
  refine ⟨convert_encode_of_readable, ?_, ?_⟩
  · intro next nextLines hnext hreadable hnewline
    obtain rfl := Text.lined_iff.1 hnext
    obtain ⟨hreport, hmore⟩ := List.forall_mem_append.1 hreadable
    -- the newline at the end of the first report keeps its last line apart from the next one
    have hboth : Text.linesChars (report ++ next).toList =
        Text.linesChars report.toList ++ Text.linesChars next.toList := by
      rw [String.toList_append, Text.linesChars_append_of_newline hnewline]
    rw [convert_encode_of_readable hreport, convert_encode_of_readable hmore,
      convert_encode_of_readable (by rwa [hboth]), hboth, List.filterMap_append,
      String.join_append, List.length_append]
    exact ⟨_, _, rfl, rfl, rfl⟩
  · intro before line after hcut hbefore hline
    exact ⟨_, convert_encode_of_not_readable hcut hbefore hline, rfl⟩

/-- A message with a block, a blank line, and a third line that is no document: the block is written
before the conversion fails. -/
theorem convert_lines_third :
    let message := "\x7b\"reason\":\"compiler-message\"," ++
      "\"package_id\":\"demo 0.1.0 (path+file:///builddir/build/BUILD/demo)\"," ++
      "\"message\":\x7b\"rendered\":\"warning: unused\\n --> src/lib.rs:1:5\\n\"\x7d\x7d"
    let block := "Error: CLIPPY_WARNING:\n" ++
      "/builddir/build/BUILD/demo/src/lib.rs:1:5: warning: unused\n\n"
    ∃ e, convert (Text.encode (message ++ "\n\n\x7bnot json\n")) = (block, .error e) ∧
      e.brief = "rust-clippy: Error while converting results (line 3)" := by
  intro message block
  have hlines : Text.Lined (message ++ "\n\n\x7bnot json\n").toList
      ([message.toList, []] ++ "\x7bnot json".toList :: []) :=
    Text.lined_iff.2 (by decide +kernel)
  have hempty : lineBlock? [] = none := by decide +kernel
  have hblock : lineBlock? message.toList = some block := by decide +kernel
  have hreadable : ∀ line ∈ [message.toList, []], Readable line := by
    obtain ⟨document, hdocument, -⟩ := Option.bind_eq_some_iff.1 hblock
    exact List.forall_mem_cons.2 ⟨.document hdocument, List.forall_mem_singleton.2 (.blank nofun)⟩
  have hnone : (Json.parse? (String.ofList "\x7bnot json".toList)).isNone = true := by decide +kernel
  have hthird : ¬ Readable "\x7bnot json".toList := by
    rintro (hblank | hdocument)
    · exact absurd (hblank '{' (by decide)) (by decide)
    · rw [hdocument] at hnone
      cases hnone
  obtain ⟨e, hconvert, hbrief⟩ := (convert_lines hlines).2.2 _ _ _ rfl hreadable hthird
  have hwritten : String.join ([message.toList, []].filterMap lineBlock?) = block := by
    rw [List.filterMap_cons_some hblock, List.filterMap_cons_none hempty]
    decide +kernel
  rw [hwritten] at hconvert
  have hnumber : toString ([message.toList, []].length + 1) = "3" := by decide
  rw [hnumber] at hbrief
  exact ⟨e, hconvert, hbrief⟩

end Clippy

end ChrootScan
