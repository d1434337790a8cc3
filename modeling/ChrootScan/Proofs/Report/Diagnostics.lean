import ChrootScan.Proofs.Report.Packages
import ChrootScan.Proofs.Text.Blanks
import ChrootScan.Proofs.Text.Fields

/-!
# Where a diagnostic is placed

A rendered diagnostic is taken apart into what it was put together from
(`Diagnostic.ofRendered?_of_renders`). So the block of a diagnostic has the place below the
directory of its package, and the excerpt line by line (`block_lines`).
-/

namespace ChrootScan.Clippy

/-! ## Rendered diagnostics -/

/-- A diagnostic is rendered as `severity: message --> file:line:column`, with blanks around the
arrow, and the excerpt behind it. -/
structure Diagnostic.Renders (d : Diagnostic) (rendered : List Char) : Prop where
  text : ∃ before after, Text.IsRun Text.isBlank before ∧ Text.IsRun Text.isBlank after ∧
    rendered = d.severity ++ ':' :: ' ' :: (d.message ++ (before ++ ("-->".toList ++ (after ++
      (d.file ++ ':' :: (d.line ++ ':' :: (d.column ++ d.excerpt)))))))
  severity_head : ∀ c ∈ d.severity.head?, Text.isBlank c = false
  severity_line : '\n' ∉ d.severity
  severity_colon : ¬ [':', ' '] <:+: d.severity
  message_last : ∀ c ∈ d.message.getLast?, Text.isBlank c = false
  message_line : '\n' ∉ d.message
  message_arrow : ¬ "-->".toList <:+: d.message
  file_chars : Text.IsRun (!Text.isBlank ·) d.file
  file_colon : ':' ∉ d.file
  line_digits : Text.IsRun Text.isDigit d.line
  column_digits : Text.IsRun Text.isDigit d.column
  excerpt_head : ∀ c ∈ d.excerpt.head?, Text.isDigit c = false
  excerpt_last : ∀ c ∈ d.excerpt.getLast?, Text.isBlank c = false

variable {s digits line column before after rest rendered : List Char} {d : Diagnostic}

/-! ### The place -/

/-- Behind a colon a number is read up to the first character that is no digit. -/
theorem colonNumber?_append (hdigits : Text.IsRun Text.isDigit digits)
    (hrest : ∀ c ∈ rest.head?, Text.isDigit c = false) :
    colonNumber? (':' :: (digits ++ rest)) = some (digits, rest) := by
  rw [colonNumber?]
  simp only [Text.takeWhile_append_eq hdigits.all hrest, List.drop_left]
  rw [if_neg (mt List.isEmpty_iff.1 hdigits.ne_nil)]

/-- A line and a column are read, up to the first character that is no digit. -/
theorem position?_append (hline : Text.IsRun Text.isDigit line)
    (hcolumn : Text.IsRun Text.isDigit column) (hrest : ∀ c ∈ rest.head?, Text.isDigit c = false) :
    position? (':' :: (line ++ ':' :: (column ++ rest))) = some (line, column, rest) := by
  have hcolon : ∀ c ∈ (':' :: (column ++ rest)).head?, Text.isDigit c = false :=
    Text.forall_mem_some (by decide)
  rw [position?, colonNumber?_append hline hcolon, Option.bind_some]
  simp only [colonNumber?_append hcolumn hrest, Option.map_some]

/-- A position begins with a colon. -/
theorem position?_of_ne {c : Char} (hc : c ≠ ':') : position? (c :: rest) = none := by
  unfold position? colonNumber?
  split
  · next h => exact absurd (List.cons_eq_cons.1 h).1 hc
  · rfl

/-- The position is cut out where it stands, as the file in front of it has no colon. -/
theorem cutWhere?_position? {file : List Char} (hfile : ':' ∉ file)
    (hline : Text.IsRun Text.isDigit line) (hcolumn : Text.IsRun Text.isDigit column)
    (hrest : ∀ c ∈ rest.head?, Text.isDigit c = false) :
    Text.cutWhere? position? (file ++ ':' :: (line ++ ':' :: (column ++ rest))) =
      some (file, line, column, rest) := by
  apply Text.cutWhere?_append
  · intro s hs hsuffix
    obtain ⟨c, more, rfl⟩ := List.exists_cons_of_ne_nil hs
    apply position?_of_ne
    rintro rfl
    exact hfile (hsuffix.subset List.mem_cons_self)
  · exact position?_append hline hcolumn hrest

/-! ### The arrow -/

/-- An arrow is found between blanks. -/
theorem afterArrow?_append (hbefore : Text.IsRun Text.isBlank before)
    (hafter : Text.IsRun Text.isBlank after) (hrest : ∀ c ∈ rest.head?, Text.isBlank c = false) :
    afterArrow? (before ++ ("-->".toList ++ (after ++ rest))) = some rest := by
  have harrow : ∀ c ∈ ("-->".toList ++ (after ++ rest)).head?, Text.isBlank c = false :=
    Text.forall_mem_some (by decide)
  rw [afterArrow?]
  simp only [Text.dropWhile_append_eq hbefore.all harrow]
  rw [if_neg (hbefore.length_ne _), Text.isPrefixOf?_append, Option.bind_some]
  simp only [Text.dropWhile_append_eq hafter.all hrest]
  rw [if_neg (hafter.length_ne _)]

/-- Without an arrow behind the blanks there is nothing to find. -/
theorem afterArrow?_eq_none (h : ¬ "-->".toList <+: s.dropWhile Text.isBlank) :
    afterArrow? s = none := by
  unfold afterArrow?
  simp only [Text.isPrefixOf?_eq_none h]
  exact ite_self none

/-- No arrow begins inside a message that holds none. -/
theorem cutWhere?_afterArrow? {message : List Char} (hbefore : Text.IsRun Text.isBlank before)
    (hafter : Text.IsRun Text.isBlank after)
    (hlast : ∀ c ∈ message.getLast?, Text.isBlank c = false)
    (harrow : ¬ "-->".toList <:+: message) (hrest : ∀ c ∈ rest.head?, Text.isBlank c = false) :
    Text.cutWhere? afterArrow? (message ++ (before ++ ("-->".toList ++ (after ++ rest)))) =
      some (message, rest) := by
  apply Text.cutWhere?_append
  · intro s hs hsuffix
    -- the message does not end with a blank, so an arrow that begins in it would begin behind
    -- blanks of the message itself, and it does not reach across the blank behind the message
    have hnonblank : s.dropWhile Text.isBlank ≠ [] := by
      intro hnil
      have hlastBlank := List.dropWhile_eq_nil_iff.1 hnil _ (List.getLast_mem hs)
      rw [hsuffix.getLast hs, hlast _ (List.getLast?_eq_some_getLast _)] at hlastBlank
      cases hlastBlank
    obtain ⟨c, before, rfl⟩ := List.exists_cons_of_ne_nil hbefore.ne_nil
    have hdash : c ∉ "-->".toList := by
      have hmark : Text.IsRun (!Text.isBlank ·) "-->".toList := by decide
      intro hmem
      have hblank : (!Text.isBlank c) = true := hmark.all c hmem
      rw [hbefore.all c List.mem_cons_self] at hblank
      cases hblank
    apply afterArrow?_eq_none
    rw [List.dropWhile_append, if_neg (mt List.isEmpty_iff.1 hnonblank)]
    exact Text.not_prefix_append_cons hdash harrow ((List.dropWhile_suffix _).trans hsuffix)
  · exact afterArrow?_append hbefore hafter hrest

/-! ### The whole -/

/-- The severity ends at the first colon with a space behind it. -/
theorem cut?_colon {severity : List Char} (h : ¬ [':', ' '] <:+: severity) (rest : List Char) :
    Text.cut? [':', ' '] (severity ++ ':' :: ' ' :: rest) = some (severity, rest) := by
  have hnone : ∀ s, s ≠ [] → s <:+ severity → ¬ [':', ' '] <+: s ++ ([':', ' '] ++ rest) := by
    intro s hs hsuffix hmark
    obtain ⟨c, more, rfl⟩ := List.exists_cons_of_ne_nil hs
    obtain ⟨rfl, hblank⟩ := List.cons_prefix_cons.1 hmark
    have hmore : [' '] <+: more := Text.prefix_of_prefix_append_cons (by decide) hblank
    have hhere : [':', ' '] <+: ':' :: more := List.cons_prefix_cons.2 ⟨rfl, hmore⟩
    exact h (hhere.isInfix.trans hsuffix.isInfix)
  exact Text.cut?_append hnone

/-- A rendered diagnostic has no blanks around it to be taken off. -/
theorem Diagnostic.Renders.trimChars_eq_self (h : d.Renders rendered) :
    Text.trimChars rendered = rendered := by
  obtain ⟨before, after, -, -, htext⟩ := h.text
  apply Text.trimChars_eq_self
  · intro c hc
    rw [htext, List.head?_append] at hc
    -- without a severity the text begins with the colon
    cases hseverity : d.severity.head? with
    | none =>
      rw [hseverity] at hc
      obtain rfl := Option.some_inj.1 hc
      decide
    | some first =>
      rw [hseverity] at hc
      exact h.severity_head c (hseverity.trans hc)
  · intro c hc
    obtain ⟨front, hfront⟩ : ∃ front, rendered = front ++ d.column ++ d.excerpt :=
      ⟨d.severity ++ ':' :: ' ' :: (d.message ++ (before ++ ("-->".toList ++ (after ++
        (d.file ++ ':' :: (d.line ++ [':'])))))), by rw [htext]; simp⟩
    rw [hfront, List.getLast?_append] at hc
    -- without an excerpt the text ends with a digit of the column
    cases hexcerpt : d.excerpt.getLast? with
    | none =>
      rw [hexcerpt, Option.none_or, List.getLast?_append_of_ne_nil _ h.column_digits.ne_nil] at hc
      exact Text.isBlank_eq_false_of_isDigit (h.column_digits.all c (List.mem_of_getLast? hc))
    | some last =>
      rw [hexcerpt] at hc
      exact h.excerpt_last c (hexcerpt.trans hc)

/-- A rendered diagnostic is taken apart again. -/
theorem Diagnostic.ofRendered?_of_renders (h : d.Renders rendered) :
    Diagnostic.ofRendered? (Text.trimChars rendered) = some d := by
  rw [h.trimChars_eq_self]
  obtain ⟨before, after, hbefore, hafter, htext⟩ := h.text
  have hfile : ∀ c ∈ (d.file ++ ':' :: (d.line ++ ':' :: (d.column ++ d.excerpt))).head?,
      Text.isBlank c = false := by
    intro c hc
    rw [List.head?_append_of_ne_nil _ h.file_chars.ne_nil] at hc
    have hnone : (!Text.isBlank c) = true := h.file_chars.all c (List.mem_of_mem_head? hc)
    rwa [Bool.not_eq_true'] at hnone
  have harrow := cutWhere?_afterArrow? hbefore hafter h.message_last h.message_arrow hfile
  have hplace := cutWhere?_position? h.file_colon h.line_digits h.column_digits h.excerpt_head
  unfold Diagnostic.ofRendered?
  simp only [htext, cut?_colon h.severity_colon, harrow, hplace, Option.bind_eq_bind,
    Option.bind_some]
  rfl

/-! ## Blocks -/

/-- The line of a block that has the place. -/
def Diagnostic.placeLine (dir : String) (d : Diagnostic) : String :=
  dir ++ "/" ++ String.ofList d.file ++ ":" ++ String.ofList d.line ++ ":" ++
    String.ofList d.column ++ ": " ++ String.ofList d.severity ++ ": " ++ String.ofList d.message

/-- The comments of a block. -/
def Diagnostic.comments (d : Diagnostic) : List String :=
  d.excerptLines.map fun line => "#  " ++ String.ofList line

/-- A comment is one line. -/
theorem Diagnostic.not_mem_of_mem_comments {line : String} (h : line ∈ d.comments) :
    '\n' ∉ line.toList := by
  obtain ⟨chars, hchars, rfl⟩ := List.mem_map.1 h
  have hfield : chars ∈ Text.fields '\n' d.excerpt := by
    unfold Diagnostic.excerptLines at hchars
    cases hfields : Text.fields '\n' d.excerpt with
    | nil => exact absurd hfields (Text.fields_ne_nil _ _)
    | cons first rest =>
      simp only [hfields] at hchars
      split at hchars
      · exact List.mem_cons_of_mem first hchars
      · exact hchars
  have hlead : '\n' ∉ "#  ".toList := by decide
  have hnone : '\n' ∉ chars := Text.not_mem_of_mem_fields hfield
  simp only [String.toList_append, String.toList_ofList, List.mem_append]
  exact not_or.2 ⟨hlead, hnone⟩

/-- A block has a head, the line with the place, the comments and an empty line. -/
theorem Diagnostic.block_eq (dir : String) (d : Diagnostic) :
    d.block dir = "Error: CLIPPY_WARNING:" ++ "\n" ++ (d.placeLine dir ++ "\n" ++
      (String.join (d.comments.map (· ++ "\n")) ++ "\n")) := by
  have hjoin : d.comments.map (· ++ "\n") =
      d.excerptLines.map fun line => "#  " ++ String.ofList line ++ "\n" :=
    List.map_map
  have hhead : "Error: CLIPPY_WARNING:\n" = "Error: CLIPPY_WARNING:" ++ "\n" := by decide
  unfold Diagnostic.block Diagnostic.placeLine
  simp only [hhead, hjoin, String.append_assoc]

/-- A block is a head, the place and the excerpt, and ends with an empty line. -/
theorem Diagnostic.splitAt_block {dir : String} (hplace : '\n' ∉ (d.placeLine dir).toList) :
    Text.splitAt '\n' (d.block dir) =
      "Error: CLIPPY_WARNING:" :: d.placeLine dir :: (d.comments ++ ["", ""]) := by
  have hhead : '\n' ∉ "Error: CLIPPY_WARNING:".toList := by decide
  have hcomments : ∀ line ∈ d.comments, '\n' ∉ line.toList := fun line hline =>
    d.not_mem_of_mem_comments hline
  rw [d.block_eq, Text.splitAt_append_newline hhead, Text.splitAt_append_newline hplace,
    Text.splitAt_join_newline hcomments]
  rfl

/-- The comments are the lines of the excerpt, the first one left out when it is blank. -/
theorem Diagnostic.comments_eq (d : Diagnostic) :
    ∃ first rest, Text.splitAt '\n' (String.ofList d.excerpt) = first :: rest ∧
      d.comments = (if Text.isBlankText first then rest else first :: rest).map ("#  " ++ ·) := by
  obtain ⟨first, rest, hfields⟩ := List.exists_cons_of_ne_nil (Text.fields_ne_nil '\n' d.excerpt)
  refine ⟨String.ofList first, rest.map String.ofList, ?_, ?_⟩
  · rw [Text.splitAt, String.toList_ofList, hfields, List.map_cons]
  · unfold Diagnostic.comments Diagnostic.excerptLines Text.isBlankText
    simp only [hfields, String.toList_ofList]
    split
    · rw [List.map_map]
      rfl
    · rw [← List.map_cons, List.map_map]
      rfl

/-- A message of the compiler about a package, with a rendered diagnostic. -/
structure CompilerMessage (document : Json) (identifier rendered : List Char) : Prop where
  reason : document.get? "reason" = some (.string "compiler-message")
  package : document.get? "package_id" = some (.string (String.ofList identifier))
  message : ∃ message, document.get? "message" = some message ∧
    message.get? "rendered" = some (.string (String.ofList rendered))

/-- A message whose package has a directory has the block of its diagnostic there. -/
theorem CompilerMessage.block?_eq {document : Json} {identifier : List Char} {dir : String}
    (h : CompilerMessage document identifier rendered)
    (hdir : packageDir? (String.ofList identifier) = some dir)
    (hd : Diagnostic.ofRendered? (Text.trimChars rendered) = some d) :
    block? document = some (d.block dir) := by
  obtain ⟨message, hmessage, hrendered⟩ := h.message
  unfold block?
  simp only [h.reason, h.package, hmessage, hrendered, Option.bind_eq_bind, Option.bind_some,
    Json.string?, String.toList_ofList, hdir, hd]
  exact if_neg (not_not.2 rfl)

/-- A diagnostic that was rendered on one line has its place on one line. -/
theorem Diagnostic.Renders.newline_not_mem (h : d.Renders rendered) {dir : String}
    (hdir : '\n' ∉ dir.toList) : '\n' ∉ (d.placeLine dir).toList := by
  have hblank : Text.isBlank '\n' = true := by decide
  have hfile : '\n' ∉ d.file := by
    intro hmem
    have hnone : (!Text.isBlank '\n') = true := h.file_chars.all _ hmem
    rw [hblank] at hnone
    cases hnone
  have hdigits {number : List Char} (hnumber : ∀ c ∈ number, Text.isDigit c = true) :
      '\n' ∉ number := by
    intro hmem
    rw [Text.isBlank_eq_false_of_isDigit (hnumber _ hmem)] at hblank
    cases hblank
  unfold Diagnostic.placeLine
  simp only [String.toList_append, String.toList_ofList, List.mem_append, not_or]
  exact ⟨⟨⟨⟨⟨⟨⟨⟨⟨⟨hdir, by decide⟩, hfile⟩, by decide⟩, hdigits h.line_digits.all⟩, by decide⟩,
    hdigits h.column_digits.all⟩, by decide⟩, h.severity_line⟩, by decide⟩, h.message_line⟩

/-- A message about a package below a directory of the sources has a block: its second line is the
place of the diagnostic below that directory with severity and message, and the lines of the excerpt
follow as comments, without the first one when it is blank. -/
theorem block_lines {document : Json} {identifier rendered dir : List Char} {d : Diagnostic}
    (hdocument : CompilerMessage document identifier rendered)
    (hidentifier : Identifies dir identifier) (hrendered : d.Renders rendered) :
    ∃ block first rest, block? document = some block ∧
      Text.splitAt '\n' (String.ofList d.excerpt) = first :: rest ∧
      Text.splitAt '\n' block =
        "Error: CLIPPY_WARNING:" ::
        ("/builddir/build/BUILD/" ++ String.ofList dir ++ "/" ++ String.ofList d.file ++ ":" ++
          String.ofList d.line ++ ":" ++ String.ofList d.column ++ ": " ++
          String.ofList d.severity ++ ": " ++ String.ofList d.message) ::
        ((if Text.isBlankText first then rest else first :: rest).map ("#  " ++ ·) ++
          ["", ""]) := by
  obtain ⟨first, rest, hexcerpt, hcomments⟩ := d.comments_eq
  -- a directory of two lines would put the place on two as well
  have hdir : '\n' ∉ (buildRoot ++ String.ofList dir).toList := by
    rw [String.toList_append, List.mem_append, String.toList_ofList]
    exact not_or.2 ⟨by decide, hidentifier.newline_not_mem⟩
  have hblock : block? document = some (d.block (buildRoot ++ String.ofList dir)) :=
    hdocument.block?_eq (packageDir?_of_identifies hidentifier)
      (Diagnostic.ofRendered?_of_renders hrendered)
  refine ⟨_, first, rest, hblock, hexcerpt, ?_⟩
  rw [Diagnostic.splitAt_block (hrendered.newline_not_mem hdir), hcomments]
  rfl

/-- A message of the compiler as the build tool writes it. -/
def compilerMessage (identifier rendered : String) : Json :=
  .object [("message", .object [("rendered", .string rendered)]),
    ("package_id", .string identifier), ("reason", .string "compiler-message")]

/-- The message that the build tool writes is one of the compiler. -/
theorem compilerMessage_eq (identifier rendered : String) :
    CompilerMessage (compilerMessage identifier rendered) identifier.toList rendered.toList := by
  constructor
  · rfl
  · rw [String.ofList_toList]
    rfl
  · rw [String.ofList_toList]
    exact ⟨_, rfl, rfl⟩

/-- A crate in a directory of the package, with one line of an excerpt. -/
theorem block_lines_nested :
    ∃ block,
      block? (compilerMessage "path+file:///builddir/build/BUILD/a-1/b#c@2"
        "warning: m\n --> s.rs:1:2\n | x") = some block ∧
      Text.splitAt '\n' block =
        ["Error: CLIPPY_WARNING:", "/builddir/build/BUILD/a-1/s.rs:1:2: warning: m", "#   | x",
          "", ""] := by
  have hpath : LocalPath "a-1".toList "/builddir/build/BUILD/a-1/b".toList :=
    ⟨by decide, by decide, "/b".toList, by decide, Text.forall_mem_some rfl⟩
  have hname : Unmarked "c".toList := by decide
  have hversion : Unmarked "2".toList := by decide
  have hidentifier : Identifies "a-1".toList
      "path+file:///builddir/build/BUILD/a-1/b#c@2".toList :=
    .versioned hpath hname hversion (by decide)
  let d : Diagnostic :=
    ⟨"warning".toList, "m".toList, "s.rs".toList, "1".toList, "2".toList, "\n | x".toList⟩
  have hrendered : d.Renders "warning: m\n --> s.rs:1:2\n | x".toList := by
    constructor
    case text => exact ⟨"\n ".toList, " ".toList, by decide⟩
    case severity_head => exact Text.forall_mem_some (by decide)
    case message_last => exact Text.forall_mem_some (by decide)
    case excerpt_head => exact Text.forall_mem_some (by decide)
    case excerpt_last => exact Text.forall_mem_some (by decide)
    all_goals decide
  obtain ⟨block, first, rest, hblock, hexcerpt, hlines⟩ :=
    block_lines (compilerMessage_eq _ _) hidentifier hrendered
  have hcut : Text.splitAt '\n' (String.ofList d.excerpt) = ["", " | x"] := by decide
  obtain ⟨rfl, rfl⟩ := List.cons_eq_cons.1 (hexcerpt.symm.trans hcut)
  exact ⟨block, hblock, hlines⟩

/-- An empty version is none, and in the older form the mark in a name is taken for that of the
path. -/
theorem identifiers_misread :
    LocalPath "a-1".toList "/builddir/build/BUILD/a-1".toList ∧ Unmarked "path+file://x".toList ∧
    Diagnostic.Renders
        ⟨"warning".toList, "m".toList, "s.rs".toList, "1".toList, "2".toList, []⟩
        "warning: m\n --> s.rs:1:2".toList ∧
    block? (compilerMessage "path+file:///builddir/build/BUILD/a-1#a@"
        "warning: m\n --> s.rs:1:2") = none ∧
    block? (compilerMessage "path+file://x 1 (path+file:///builddir/build/BUILD/a-1)"
        "warning: m\n --> s.rs:1:2") =
      some "Error: CLIPPY_WARNING:\n/builddir/build/BUILD/ddir/s.rs:1:2: warning: m\n\n" := by
  refine ⟨?_, by decide, ?_, by decide +kernel, by decide +kernel⟩
  · exact ⟨by decide, by decide, [], by decide, nofun⟩
  · constructor
    case text => exact ⟨"\n ".toList, " ".toList, by decide⟩
    case severity_head => exact Text.forall_mem_some (by decide)
    case message_last => exact Text.forall_mem_some (by decide)
    case excerpt_head => exact nofun
    case excerpt_last => exact nofun
    all_goals decide

end ChrootScan.Clippy
