import ChrootScan.Proofs.Findings.Words
import ChrootScan.Proofs.Record.Metadata
import ChrootScan.Proofs.Shell.Pieces
import ChrootScan.Proofs.Text.Lines
import ChrootScan.Proofs.Text.Parts

/-!
# Filters for known false positives

A list of known false positives brings a filter of its own, and one for each path that a file beside
the list excludes for the package. The excluded paths are expressions of the user, so each of them is
quoted, and reaches its filter as it stands in the file (`installKnown_exclusions`).
-/

namespace ChrootScan.Findings

open Effect Shell

/-! ## The filter for an excluded path -/

/-- What the filter for an excluded path is to be read as. -/
def pathTokens (expression : String) : List Token :=
  [.text "csgrep", .text "--mode=json", .text "--invert-match",
    .word ("--path=".toList.map .literal ++ expression.toList.map .quoted)]

/-- The filter is always read, with the expression as one word. -/
theorem reads_pathFilter (expression : String) :
    ReadsAs (pathFilter expression).toList (pathTokens expression) := by
  have hoptions : "csgrep --mode=json --invert-match --path=".toList.foldl Lexer.step {} =
      (Lexer.inWord .bare ("--path=".toList.map .literal)).behind
        [.text "csgrep", .text "--mode=json", .text "--invert-match"] := by decide +kernel
  have hsplit : (pathFilter expression).toList =
      "csgrep --mode=json --invert-match --path=".toList ++ (quote expression).toList :=
    String.toList_append
  have hread : (pathFilter expression).toList.foldl Lexer.step {} =
      (Lexer.inWord .bare ("--path=".toList.map .literal ++ expression.toList.map .quoted)).behind
        [.text "csgrep", .text "--mode=json", .text "--invert-match"] := by
    rw [hsplit, List.foldl_append, hoptions, Lexer.foldl_behind, Lexer.foldl_quote]
  rw [ReadsAs, hread, Lexer.endWord_behind]
  rfl

/-- Splitting a filter gives the expression back, whatever it is. -/
theorem split_pathFilter (expression : String) :
    split (pathFilter expression) =
      .ok ["csgrep", "--mode=json", "--invert-match", "--path=" ++ expression] := by
  have hprogram : Spell ["csgrep", "--mode=json", "--invert-match"]
      ["csgrep", "--mode=json", "--invert-match"] := .unquoted (by decide)
  have hoption : Spells "--path=".toList "--path=".toList :=
    Unquoted.spells (by decide) (by decide)
  have hpath : Spell ["--path=" ++ quote expression] ["--path=" ++ expression] :=
    .cons (hoption.append_toList (spells_quote expression)) .nil
  have hjoin : Text.join " " ["csgrep", "--mode=json", "--invert-match"] =
      "csgrep --mode=json --invert-match" := by decide +kernel
  have hopen : "csgrep --mode=json --invert-match --path=" =
      "csgrep --mode=json --invert-match" ++ " " ++ "--path=" := by decide +kernel
  have hfilter : pathFilter expression = Text.join " "
      (["csgrep", "--mode=json", "--invert-match"] ++ ["--path=" ++ quote expression]) :=
    calc pathFilter expression
      _ = "csgrep --mode=json --invert-match" ++ " " ++ "--path=" ++ quote expression :=
        congrArg (· ++ quote expression) hopen
      _ = "csgrep --mode=json --invert-match" ++ " " ++ ("--path=" ++ quote expression) :=
        String.append_assoc
      _ = _ := by rw [Text.join_concat, hjoin]; rfl
  rw [hfilter]
  exact (hprogram.append hpath).split_join

/-- The stages of a pipeline stand between what is read and the last stage. -/
theorem filteredCmd_eq (all : String) (filters : List String) (tail : String) :
    filteredCmd all filters tail =
      Text.join " | " (["cat" ++ operand all] ++ (filters ++ [tail])) := by
  have hone : Text.join " | " ["cat" ++ operand all] = "cat" ++ operand all :=
    String.ofList_toList
  rw [← List.append_assoc, Text.join_concat, if_neg (by simp),
    Text.join_append " | " (List.cons_ne_nil _ _), hone]
  rfl

/-! ## Installing the filters -/

/-- The file with the path exclusions of a package, beside the list `stem.js`. -/
def exclusionsFile (stem pkg : String) : String :=
  Path.join (Path.join (stem ++ ".d") pkg) "exclude-paths.txt"

theorem exclusionsFile?_js (stem pkg : String) :
    exclusionsFile? (stem ++ ".js") pkg = some (exclusionsFile stem pkg) := by
  rw [exclusionsFile?, Text.beforeTail?_eq_some_iff.2 rfl]
  rfl

/-- The expressions among the lines of a file: blanks around a line are cut off, and what is left
has to be something. -/
def expressions (lines : List (List Char)) : List String :=
  (lines.map fun line => Text.trim (String.ofList line)).filter (· ≠ "")

theorem exclusionFilters_eq {content : String} {lines : List (List Char)}
    (h : Text.Lined content.toList lines) :
    exclusionFilters content = (expressions lines).map pathFilter := by
  rw [exclusionFilters, expressions, Text.lines, ← Text.lined_iff.1 h, List.map_map]
  rfl

section
variable {η : Type} {plan : Plan η} {b b' : Bench} {list : String}

/-- Nothing but the entry for the list is written, and without this entry there is no success. -/
theorem act_installKnown_snd (h : plan.knownFalsePositives = some list) :
    (act (installKnown plan) b).2 =
        (eval (Scan.putMetadata "known-false-positives" list) b).2 ∧
      ((act (installKnown plan) b).1.1 = .ok () →
        (eval (Scan.putMetadata "known-false-positives" list) b).1 = .ok ()) := by
  have hput : act (Scan.putMetadata "known-false-positives" list).run b =
      eval (Scan.putMetadata "known-false-positives" list) b := rfl
  have hfiles (b : Bench) : act Scan.files b = (b.machine.tree, b) := rfl
  rw [installKnown, h]
  dsimp only
  rw [act_bind, hput]
  rcases eval (Scan.putMetadata "known-false-positives" list) b with ⟨e | ⟨⟩, b'⟩
  · exact ⟨rfl, nofun⟩
  -- from here on files are only read, on each of the ways
  refine ⟨?_, fun _ => rfl⟩
  dsimp only
  split
  · rfl
  rw [act_bind, hfiles]
  split
  · rfl
  rw [act_bind, hfiles]
  dsimp only
  split
  · rfl
  · rfl

/-- With the list on record and its exclusions read, both kinds of filters are installed. -/
theorem act_installKnown {file content : String} (h : plan.knownFalsePositives = some list)
    (hfile : plan.pkg.bind (exclusionsFile? list) = some file)
    (hput : eval (Scan.putMetadata "known-false-positives" list) b = (.ok (), b'))
    (hread : b'.machine.tree.readText file = .ok content) :
    act (installKnown plan) b =
      ((.ok (), { plan with
        resultFilters := plan.resultFilters ++ knownFilter list :: exclusionFilters content }),
        b') := by
  have hrun : act (Scan.putMetadata "known-false-positives" list).run b = (.ok (), b') := hput
  have hfiles : act Scan.files b' = (b'.machine.tree, b') := rfl
  have hisFile : (!b'.machine.tree.isFile file) = false := by
    rw [FileTree.isFile_of_readText hread, Bool.not_true]
  rw [installKnown, h]
  dsimp only
  rw [act_bind, hrun]
  dsimp only
  rw [hfile]
  dsimp only
  rw [act_bind, hfiles]
  simp only [hisFile, Bool.false_eq_true, if_false]
  rw [act_bind, hfiles]
  simp only [hread, act_pure, List.append_assoc, List.singleton_append]

/-- After a successful run, the filters of a plan are those it had, the filter for the list, and one
filter for each line of the exclusions with something on it, in order. Each of these filters is split
into its program, its options and the expression as it stands in the file. All filters are stages of
one pipeline, in order: a shell that reads each of them as its own tokens reads the pipeline as these
tokens, with bars between them. -/
theorem installKnown_exclusions {stem pkg content : String} {lines : List (List Char)}
    (hlist : plan.knownFalsePositives = some (stem ++ ".js")) (hpkg : plan.pkg = some pkg)
    (hok : (act (installKnown plan) b).1.1 = .ok ())
    (hread : (act (installKnown plan) b).2.machine.tree.readText (exclusionsFile stem pkg) =
      .ok content)
    (hlines : Text.Lined content.toList lines) :
    (act (installKnown plan) b).1.2 = { plan with
        resultFilters := plan.resultFilters ++
          knownFilter (stem ++ ".js") :: (expressions lines).map pathFilter } ∧
      (∀ path,
        b.machine.tree.locate true path ≠ b.machine.tree.locate true b.record.metadataPath →
        b.machine.tree.locate true path ≠ b.machine.tree.locate true b.record.logPath →
        (act (installKnown plan) b).2.machine.tree.readBytes path =
          b.machine.tree.readBytes path) ∧
      (∀ expression ∈ expressions lines, split (pathFilter expression) =
        .ok ["csgrep", "--mode=json", "--invert-match", "--path=" ++ expression]) ∧
      ∀ all tail,
        filteredCmd all (act (installKnown plan) b).1.2.resultFilters tail =
          Text.join " | " (["cat" ++ operand all] ++
            (plan.resultFilters ++ knownFilter (stem ++ ".js") :: (expressions lines).map pathFilter
              ++ [tail])) ∧
        ∀ {tokens known words},
          List.Forall₂ (fun filter words => ReadsAs filter.toList words) plan.resultFilters tokens →
          ReadsAs (knownFilter (stem ++ ".js")).toList known →
          (ReadsAs (filteredCmd all (act (installKnown plan) b).1.2.resultFilters tail).toList
              (filteredTokens all (tokens ++ known :: (expressions lines).map pathTokens) words) ↔
            '\'' ∉ all.toList ∧ ReadsAs tail.toList words) := by
  -- only the metadata is written, so the file that is read afterwards is the one that was there
  obtain ⟨hsame, hput⟩ := act_installKnown_snd (b := b) hlist
  have hfile : plan.pkg.bind (exclusionsFile? (stem ++ ".js")) = some (exclusionsFile stem pkg) := by
    rw [hpkg, Option.bind_some, exclusionsFile?_js]
  have hrun := act_installKnown hlist hfile (Prod.ext (hput hok) rfl) (hsame ▸ hread)
  have hplan : (act (installKnown plan) b).1.2 = { plan with
      resultFilters := plan.resultFilters ++
        knownFilter (stem ++ ".js") :: (expressions lines).map pathFilter } := by
    rw [hrun, exclusionFilters_eq hlines]
  refine ⟨hplan, fun path hmetadata hlog => ?_, fun expression _ => split_pathFilter expression,
    fun all tail => ⟨?_, fun htokens hknown => ?_⟩⟩
  · rw [hsame]
    exact Scan.readBytes_putMetadata _ _ hmetadata hlog
  · rw [hplan, filteredCmd_eq]
  · rw [hplan]
    have hpaths : List.Forall₂ (fun filter words => ReadsAs filter.toList words)
        ((expressions lines).map pathFilter) ((expressions lines).map pathTokens) := by
      rw [List.forall₂_map_left_iff, List.forall₂_map_right_iff]
      exact List.forall₂_same.2 fun expression _ => reads_pathFilter expression
    exact reads_filteredCmd_iff (List.rel_append htokens (.cons hknown hpaths))

end

/-- Two expressions, one with blanks, quotes and a dollar sign, behind the filters of a plan. -/
theorem installKnown_exclusions_quoted :
    let content := "/tests/\n \r\n  \"a b\"\\.h$ \n"
    let lines := ["/tests/".toList, " ".toList, "  \"a b\"\\.h$ ".toList]
    let tree : FileTree := { nodes := [(["l"], .dir), (["l", "known.d"], .dir),
      (["l", "known.d", "gcc"], .dir),
      (["l", "known.d", "gcc", "exclude-paths.txt"], .file (Text.encode content) 0o644)] }
    let b : Bench := { machine := { tree }, record := { output := "out", resdir := "/r" } }
    let plan : Plan Unit :=
      { knownFalsePositives := some "/l/known.js", pkg := some "gcc", resultFilters := ["sort"] }
    (act (installKnown plan) b).1.1 = .ok () ∧
      (act (installKnown plan) b).2.machine.tree.readText (exclusionsFile "/l/known" "gcc") =
        .ok content ∧
      Text.Lined content.toList lines ∧
      (act (installKnown plan) b).1.2.resultFilters = ["sort",
        "csdiff --json-output --show-internal \"/l/known.js\" -",
        "csgrep --mode=json --invert-match --path=\"/tests/\"",
        "csgrep --mode=json --invert-match --path=\"\\\"a b\\\"\\\\.h\\$\""] ∧
      split (pathFilter "\"a b\"\\.h$") =
        .ok ["csgrep", "--mode=json", "--invert-match", "--path=\"a b\"\\.h$"] ∧
      ReadsAs (filteredCmd "/r/all.js" (act (installKnown plan) b).1.2.resultFilters "cssort").toList
        (filteredTokens "/r/all.js" [[.text "sort"], knownTokens "/l/known.js", pathTokens "/tests/",
          pathTokens "\"a b\"\\.h$"] [.text "cssort"]) := by
  intro content lines tree b plan
  have hjs : "/l/known" ++ ".js" = "/l/known.js" := by decide +kernel
  have hlist : plan.knownFalsePositives = some ("/l/known" ++ ".js") := by rw [hjs]
  have hok : (act (installKnown plan) b).1.1 = .ok () := by decide +kernel
  have hread : (act (installKnown plan) b).2.machine.tree.readText
      (exclusionsFile "/l/known" "gcc") = .ok content := by decide +kernel
  have hlines : Text.Lined content.toList lines := Text.lined_iff.2 (by decide +kernel)
  have hexpressions : expressions lines = ["/tests/", "\"a b\"\\.h$"] := by decide +kernel
  obtain ⟨hplan, -, hsplit, hcommand⟩ := installKnown_exclusions hlist rfl hok hread hlines
  rw [hexpressions] at hsplit hcommand
  rw [hexpressions, hjs] at hplan
  have hsort : List.Forall₂ (fun filter words => ReadsAs filter.toList words) ["sort"]
      [[.text "sort"]] := .cons (by decide) .nil
  have hknown : ReadsAs (knownFilter ("/l/known" ++ ".js")).toList (knownTokens "/l/known.js") :=
    hjs ▸ reads_knownFilter_iff.2 (by decide)
  have htail : ReadsAs "cssort".toList [.text "cssort"] := by decide
  -- the three filters are the one of the plan, the one for known findings and one for each
  -- expression
  have hpipeline := ((hcommand "/r/all.js" "cssort").2 hsort hknown).2 ⟨by decide, htail⟩
  refine ⟨hok, hread, hlines, ?_, hsplit _ (by decide), hpipeline⟩
  rw [hplan]
  decide +kernel

end ChrootScan.Findings
