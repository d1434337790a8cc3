import ChrootScan.Analyzer.Scripts
import ChrootScan.Proofs.Path
import ChrootScan.Proofs.Shell.Tokens

/-!
# Values of the user in pipelines

The pipelines for findings are texts with values in them that the user chose: expressions for
events, the list of known false positives, and paths below the directory of the results. Each value
stands between quotes as it is, so a shell finds one literal word with this value exactly if the
value has nothing that is special between these quotes.
-/

namespace ChrootScan.Findings

open Shell

variable {y : List Char} {t : List Token}

/-! ## Parts of a pipeline -/

theorem apart_operand (path : String) : Apart ((operand path).toList ++ y) :=
  .inr ⟨_, by rw [operand, String.toList_append, String.toList_append]; rfl⟩

theorem apart_redirect (path : String) : Apart ((redirect path).toList ++ y) :=
  .inr ⟨_, by rw [redirect, String.toList_append]; rfl⟩

theorem apart_bar (filter : String) : Apart ((" | " ++ filter).toList ++ y) :=
  .inr ⟨_, by rw [String.toList_append]; rfl⟩

theorem apart_last_operand (path : String) : Apart (operand path).toList :=
  List.append_nil (operand path).toList ▸ apart_operand path

theorem apart_last_redirect (path : String) : Apart (redirect path).toList :=
  List.append_nil (redirect path).toList ▸ apart_redirect path

/-- An operand is one word exactly if its path has no apostrophe. -/
theorem reads_operand_iff {path : String} (hy : Apart y) :
    ReadsAs ((operand path).toList ++ y) (.text path :: t) ↔
      '\'' ∉ path.toList ∧ ReadsAs y t := by
  have hsplit : (operand path).toList ++ y =
      ' ' :: ('\'' :: path.toList ++ '\'' :: y) := by
    simp [operand]
  rw [hsplit, readsAs_space_iff, Token.text, reads_single_iff hy]

theorem reads_redirect_iff {path : String} (hy : Apart y) :
    ReadsAs ((redirect path).toList ++ y) (.into :: .text path :: t) ↔
      '\'' ∉ path.toList ∧ ReadsAs y t := by
  have hinto : " >".toList.foldl Lexer.step {} = { done := [Token.into] } := rfl
  rw [redirect, String.toList_append, List.append_assoc,
    ← List.singleton_append (x := Token.into), readsAs_append_iff hinto, reads_operand_iff hy]

/-- An operand may end a pipeline. -/
theorem reads_last_operand_iff {path : String} :
    ReadsAs (operand path).toList [.text path] ↔ '\'' ∉ path.toList := by
  have hend : ReadsAs [] [] := rfl
  rw [← List.append_nil (operand path).toList, reads_operand_iff (.inl rfl), and_iff_left hend]

/-- A redirection ends most pipelines. -/
theorem reads_last_redirect_iff {path : String} :
    ReadsAs (redirect path).toList [.into, .text path] ↔ '\'' ∉ path.toList := by
  have hend : ReadsAs [] [] := rfl
  rw [← List.append_nil (redirect path).toList, reads_redirect_iff (.inl rfl), and_iff_left hend]

/-- A filter behind its bar. -/
theorem reads_bar {filter : String} {tokens : List Token} (h : ReadsAs filter.toList tokens) :
    ReadsAs (" | " ++ filter).toList (.bar :: tokens) := by
  have hbar : " | ".toList.foldl Lexer.step {} = { done := [Token.bar] } := rfl
  rw [String.toList_append, ← List.singleton_append (x := Token.bar), readsAs_append_iff hbar]
  exact h

theorem stages_cons (filter : String) (filters : List String) :
    (stages (filter :: filters)).toList = (" | " ++ filter).toList ++ (stages filters).toList := by
  simp [stages, String.join_cons]

theorem apart_stages (filters : List String) (hy : Apart y) :
    Apart ((stages filters).toList ++ y) := by
  cases filters with
  | nil => exact hy
  | cons filter filters =>
    rw [stages_cons, List.append_assoc]
    exact apart_bar filter

/-- Filters that are read are so as the stages of a pipeline. -/
theorem reads_stages_iff {filters : List String} {tokens : List (List Token)}
    (h : List.Forall₂ (fun filter words => ReadsAs filter.toList words) filters tokens)
    (hy : Apart y) :
    ReadsAs ((stages filters).toList ++ y) (tokens.flatMap (.bar :: ·) ++ t) ↔ ReadsAs y t := by
  induction h with
  | nil => exact Iff.rfl
  | cons hfilter _ ih =>
    rw [stages_cons, List.append_assoc, List.flatMap_cons, List.append_assoc,
      readsAs_behind_iff (reads_bar hfilter) (apart_stages _ hy), ih]

/-! ## Paths below a directory -/

/-- A path has an apostrophe below a directory only if the directory does. -/
theorem apostrophe_join_iff {base name : String} (hname : '\'' ∉ name.toList)
    (hrelative : Path.isAbsolute name = false) :
    '\'' ∈ (Path.join base name).toList ↔ '\'' ∈ base.toList := by
  obtain hjoin | hjoin := Path.toList_join base hrelative
  · simp [hjoin, hname]
  · simp [hjoin, hname]

/-- The name of a rendered report has an apostrophe exactly if that of the findings does. -/
theorem apostrophe_sibling_iff {js ending : String} (hending : '\'' ∉ ending.toList) :
    '\'' ∈ (sibling js ending).toList ↔ '\'' ∈ js.toList := by
  rw [sibling, String.toList_append, List.mem_append, or_iff_left hending, Text.beforeTail?]
  cases hstem : ".js".toList.isSuffixOf? js.toList with
  | none => rfl
  | some stem =>
    have hjs := List.isSuffixOf?_eq_some_iff_append_eq.1 hstem
    rw [← hjs, Option.map_some, Option.getD_some, String.toList_ofList, List.mem_append,
      or_iff_left (by decide)]

variable {r : Record}

theorem apostrophe_debugDir_iff : '\'' ∈ r.debugDir.toList ↔ '\'' ∈ r.resdir.toList :=
  apostrophe_join_iff (by decide) (by decide)

theorem apostrophe_uniDir_iff : '\'' ∈ r.uniDir.toList ↔ '\'' ∈ r.resdir.toList :=
  (apostrophe_join_iff (by decide) (by decide)).trans apostrophe_debugDir_iff

theorem apostrophe_rawPath_iff {path : String} (hpath : '\'' ∉ (Text.dropLeading '/' path).toList)
    (hrelative : Path.isAbsolute (Text.dropLeading '/' path) = false) :
    '\'' ∈ (r.rawPath path).toList ↔ '\'' ∈ r.resdir.toList :=
  ((apostrophe_join_iff hpath hrelative).trans (apostrophe_join_iff (by decide) (by decide))).trans
    apostrophe_debugDir_iff

/-! ## The pipelines -/

/-- What the pipeline of a filter for events is to be read as. -/
def captureTokens (r : Record) (capture expression : String) : List Token :=
  [.text "csgrep", .text "--quiet", .text (r.rawPath capture), .bar, .text "csgrep",
    .text "--event", .text expression, .into,
    .text (Path.join r.uniDir ((Path.fileName? capture).getD ""))]

/-- What the filter for known false positives is to be read as. -/
def knownTokens (list : String) : List Token :=
  [.text "csdiff", .text "--json-output", .text "--show-internal", .text list, .text "-"]

/-- What all renderings of findings begin with. -/
def render (mode js : String) : String :=
  "csgrep " ++ mode ++ " " ++ finalFilterArgs ++ operand js

/-- What this is to be read as. -/
def renderTokens (mode js : String) : List Token :=
  [.text "csgrep", .text mode, .text "--invert-match", .text "--event", .text "internal warning",
    .text "--prune-events=1", .text js]

/-- What the renderings of findings are to be read as. -/
def transformTokens (js : String) : List (List Token) :=
  [renderTokens "--mode=grep" js ++ [.into, .text (sibling js ".err")],
    renderTokens "--mode=json" js ++
      [.bar, .text "cshtml", .text "-", .into, .text (sibling js ".html")],
    renderTokens "--mode=evtstat" js ++ [.bar, .text "tee", .text (sibling js "-summary.txt")]]

/-- What a pipeline of filters is to be read as. -/
def filteredTokens (all : String) (filters : List (List Token)) (tail : List Token) : List Token :=
  .text "cat" :: .text all :: filters.flatMap (.bar :: ·) ++ .bar :: tail

/-- The pipeline of a filter for events, with its three values. -/
theorem reads_captureFilter_iff {capture expression : String} :
    ReadsAs (Setup.captureFilterCmd capture (eventFilter expression) r).toList
        (captureTokens r capture expression) ↔
      '\'' ∉ (r.rawPath capture).toList ∧ '\'' ∉ expression.toList ∧
        '\'' ∉ (Path.join r.uniDir ((Path.fileName? capture).getD "")).toList := by
  have hopen : "csgrep --event '" = "csgrep --event" ++ " '" := rfl
  -- the filter of the script is an operand behind a call without any
  have hfilter : eventFilter expression = "csgrep --event" ++ operand expression :=
    calc eventFilter expression = "csgrep --event" ++ " '" ++ expression ++ "'" :=
          congrArg (fun s => s ++ expression ++ "'") hopen
      _ = "csgrep --event" ++ operand expression := by
          simp only [operand, String.append_assoc]
  have hcommand : (Setup.captureFilterCmd capture (eventFilter expression) r).toList =
      "csgrep --quiet".toList ++ ((operand (r.rawPath capture)).toList ++
        ((" | " ++ "csgrep --event").toList ++ ((operand expression).toList ++
          (redirect (Path.join r.uniDir ((Path.fileName? capture).getD ""))).toList))) := by
    have hunfold : Setup.captureFilterCmd capture (eventFilter expression) r =
        "csgrep --quiet" ++ operand (r.rawPath capture) ++ " | " ++ eventFilter expression ++
          redirect (Path.join r.uniDir ((Path.fileName? capture).getD "")) := rfl
    rw [hunfold, hfilter]
    simp only [String.toList_append, List.append_assoc]
  have hbefore : ReadsAs "csgrep --quiet".toList [.text "csgrep", .text "--quiet"] := by decide
  have hbetween : ReadsAs "csgrep --event".toList [.text "csgrep", .text "--event"] := by decide
  rw [hcommand]
  -- from the left: the call, the file that is read, the bar with the filter, and what is written
  refine (readsAs_behind_iff hbefore (apart_operand _)).trans ?_
  refine (reads_operand_iff (apart_bar _)).trans (and_congr_right fun _ => ?_)
  refine (readsAs_behind_iff (reads_bar hbetween) (apart_operand _)).trans ?_
  rw [reads_operand_iff (apart_last_redirect _), reads_last_redirect_iff]

/-- The filter for known findings is read as meant exactly if the path of the list has no
apostrophe. -/
theorem reads_knownFilter_iff {list : String} :
    ReadsAs (knownFilter list).toList (knownTokens list) ↔ standsInQuotes list.toList = true := by
  have hopen : "csdiff --json-output --show-internal \"" =
      "csdiff --json-output --show-internal" ++ " \"" := rfl
  have hquoted : (" \"" ++ list ++ "\" -").toList =
      ' ' :: ('"' :: list.toList ++ '"' :: " -".toList) := by simp
  have hfilter : (knownFilter list).toList = "csdiff --json-output --show-internal".toList ++
      ' ' :: ('"' :: list.toList ++ '"' :: " -".toList) := by
    rw [← hquoted, ← String.toList_append, String.toList_inj, ← String.append_assoc,
      ← String.append_assoc, ← hopen]
    rfl
  have hbefore : ReadsAs "csdiff --json-output --show-internal".toList
      [.text "csdiff", .text "--json-output", .text "--show-internal"] := by decide +kernel
  have hafter : ReadsAs " -".toList [.text "-"] := by decide +kernel
  rw [hfilter]
  refine (readsAs_behind_iff hbefore (.inr ⟨_, rfl⟩)).trans ?_
  rw [readsAs_space_iff]
  exact (reads_double_iff (.inr ⟨_, rfl⟩) _).trans (and_iff_left hafter)

/-- Up to its first value, a rendering is read apart from what it goes on with. -/
theorem reads_render_iff {mode js : String}
    (hmode : ReadsAs ("csgrep " ++ mode).toList [.text "csgrep", .text mode]) (hy : Apart y) :
    ReadsAs ((render mode js).toList ++ y) (renderTokens mode js ++ t) ↔
      '\'' ∉ js.toList ∧ ReadsAs y t := by
  have hargs : ReadsAs (" " ++ finalFilterArgs).toList [.text "--invert-match", .text "--event",
      .text "internal warning", .text "--prune-events=1"] := by decide +kernel
  have hsplit : (render mode js).toList ++ y = ("csgrep " ++ mode).toList ++
      ((" " ++ finalFilterArgs).toList ++ ((operand js).toList ++ y)) := by
    simp only [render, String.toList_append, List.append_assoc]
  have hrest : Apart ((" " ++ finalFilterArgs).toList ++ ((operand js).toList ++ y)) :=
    .inr ⟨_, by rw [String.toList_append]; rfl⟩
  rw [hsplit]
  refine (readsAs_behind_iff hmode hrest).trans ?_
  exact (readsAs_behind_iff hargs (apart_operand _)).trans (reads_operand_iff hy)

/-- A rendering that goes on with a program and a last value. -/
theorem reads_render_program_iff {mode js program target : String} {words last : List Token}
    (hmode : ReadsAs ("csgrep " ++ mode).toList [.text "csgrep", .text mode])
    (hprogram : ReadsAs program.toList words) (hapart : Apart (program.toList ++ target.toList))
    (htarget : Apart target.toList) :
    ReadsAs (render mode js ++ (program ++ target)).toList
        (renderTokens mode js ++ (words ++ last)) ↔
      '\'' ∉ js.toList ∧ ReadsAs target.toList last := by
  rw [String.toList_append, String.toList_append, reads_render_iff hmode hapart,
    readsAs_behind_iff hprogram htarget]

/-- What is rendered and where to is one word each, or the file has an apostrophe in its path. -/
theorem reads_transformCmds_iff {js : String} :
    List.Forall₂ (fun command words => ReadsAs command.toList words) (transformCmds js)
        (transformTokens js) ↔ '\'' ∉ js.toList := by
  -- each command is put together from the rendering and a tail, which the lemmas read separately
  have hcmds : transformCmds js =
      [render "--mode=grep" js ++ redirect (sibling js ".err"),
        render "--mode=json" js ++ (" | cshtml -" ++ redirect (sibling js ".html")),
        render "--mode=evtstat" js ++ (" | tee" ++ operand (sibling js "-summary.txt"))] := by
    simp only [transformCmds, render, ← String.append_assoc]
    rfl
  have hsibling {ending : String} (hending : '\'' ∉ ending.toList) :
      '\'' ∉ (sibling js ending).toList ↔ '\'' ∉ js.toList :=
    not_congr (apostrophe_sibling_iff hending)
  have htext : ReadsAs (render "--mode=grep" js ++ redirect (sibling js ".err")).toList
      (renderTokens "--mode=grep" js ++ [Token.into, Token.text (sibling js ".err")]) ↔
        '\'' ∉ js.toList := by
    rw [String.toList_append, reads_render_iff (by decide) (apart_last_redirect _),
      reads_last_redirect_iff, hsibling (by decide), and_self]
  have hpage : ReadsAs
      (render "--mode=json" js ++ (" | cshtml -" ++ redirect (sibling js ".html"))).toList
      (renderTokens "--mode=json" js ++ ([Token.bar, Token.text "cshtml", Token.text "-"] ++
        [Token.into, Token.text (sibling js ".html")])) ↔ '\'' ∉ js.toList := by
    rw [reads_render_program_iff (by decide) (by decide) (.inr ⟨_, rfl⟩) (apart_last_redirect _),
      reads_last_redirect_iff, hsibling (by decide), and_self]
  have hsummary : ReadsAs
      (render "--mode=evtstat" js ++ (" | tee" ++ operand (sibling js "-summary.txt"))).toList
      (renderTokens "--mode=evtstat" js ++ ([Token.bar, Token.text "tee"] ++
        [Token.text (sibling js "-summary.txt")])) ↔ '\'' ∉ js.toList := by
    rw [reads_render_program_iff (by decide) (by decide) (.inr ⟨_, rfl⟩) (apart_last_operand _),
      reads_last_operand_iff, hsibling (by decide), and_self]
  have htokens : transformTokens js =
      [renderTokens "--mode=grep" js ++ [Token.into, Token.text (sibling js ".err")],
        renderTokens "--mode=json" js ++ ([Token.bar, Token.text "cshtml", Token.text "-"] ++
          [Token.into, Token.text (sibling js ".html")]),
        renderTokens "--mode=evtstat" js ++
          ([Token.bar, Token.text "tee"] ++ [Token.text (sibling js "-summary.txt")])] := rfl
  rw [hcmds, htokens, List.forall₂_cons, List.forall₂_cons, List.forall₂_cons, htext, hpage,
    hsummary]
  simp

/-- The command that filters findings is read as meant exactly if the values in it have no
apostrophe. -/
theorem reads_filteredCmd_iff {all : String} {filters : List String} {tokens : List (List Token)}
    {tail : String} {words : List Token}
    (hfilters : List.Forall₂ (fun filter words => ReadsAs filter.toList words) filters tokens) :
    ReadsAs (filteredCmd all filters tail).toList (filteredTokens all tokens words) ↔
      '\'' ∉ all.toList ∧ ReadsAs tail.toList words := by
  have hcommand : (filteredCmd all filters tail).toList = "cat".toList ++
      ((operand all).toList ++ ((stages filters).toList ++ (" | ".toList ++ tail.toList))) := by
    simp only [filteredCmd, String.toList_append, List.append_assoc]
  have hcat : ReadsAs "cat".toList [.text "cat"] := by decide
  have hbar : " | ".toList.foldl Lexer.step {} = { done := [Token.bar] } := rfl
  have hlast : Apart (" | ".toList ++ tail.toList) := .inr ⟨_, rfl⟩
  rw [hcommand]
  refine (readsAs_behind_iff hcat (apart_operand _)).trans ?_
  refine (reads_operand_iff (apart_stages _ hlast)).trans (and_congr_right fun _ => ?_)
  exact (reads_stages_iff hfilters hlast).trans (readsAs_append_iff hbar)

/-- The capture of an analyzer of scripts lies below the directory of the results, and so do the
findings. -/
theorem reads_captureFilter_builddir_iff (capture : String) {expression : String}
    (hpath : '\'' ∉ (Text.dropLeading '/' capture).toList ∧
      Path.isAbsolute (Text.dropLeading '/' capture) = false)
    (hname : '\'' ∉ ((Path.fileName? capture).getD "").toList ∧
      Path.isAbsolute ((Path.fileName? capture).getD "") = false) :
    ReadsAs (Setup.captureFilterCmd capture (eventFilter expression) r).toList
        (captureTokens r capture expression) ↔
      '\'' ∉ expression.toList ∧ '\'' ∉ r.resdir.toList := by
  rw [reads_captureFilter_iff, apostrophe_rawPath_iff hpath.1 hpath.2,
    apostrophe_join_iff hname.1 hname.2, apostrophe_uniDir_iff]
  exact and_left_comm.trans (and_congr_right fun _ => and_self_iff)

/-! ## All values -/

/-- A shell finds every value of the user as one literal word of its pipeline, exactly if the
expression for events and the directory of the results have no apostrophe and the list of known
false positives has nothing that is special between double quotes. -/
theorem values_stay_words_iff (r : Record) {filters : List String} {tokens : List (List Token)}
    (hfilters : List.Forall₂ (fun filter words => ReadsAs filter.toList words) filters tokens) :
    (∀ o : Bandit.Options,
      ReadsAs (Setup.captureFilterCmd (Bandit.script o).capture (Bandit.script o).filter r).toList
          (captureTokens r (Bandit.script o).capture o.eventFilter) ↔
        '\'' ∉ o.eventFilter.toList ∧ '\'' ∉ r.resdir.toList) ∧
    (∀ o : Pylint.Options,
      ReadsAs (Setup.captureFilterCmd (Pylint.script o).capture (Pylint.script o).filter r).toList
          (captureTokens r (Pylint.script o).capture o.eventFilter) ↔
        '\'' ∉ o.eventFilter.toList ∧ '\'' ∉ r.resdir.toList) ∧
    (∀ list, ReadsAs (knownFilter list).toList (knownTokens list) ↔
      standsInQuotes list.toList = true) ∧
    (∀ js, List.Forall₂ (fun command words => ReadsAs command.toList words) (transformCmds js)
      (transformTokens js) ↔ '\'' ∉ js.toList) ∧
    (let all := Path.join r.debugDir "scan-results-all.js"
      let js := Path.join r.resdir "scan-results.js"
      let left := Path.join r.debugDir "suppressed-results.js"
      (ReadsAs (filteredCmd all filters ("cssort --key=path" ++ redirect js)).toList
          (filteredTokens all tokens
            [.text "cssort", .text "--key=path", .into, .text js]) ↔
        '\'' ∉ r.resdir.toList) ∧
      (ReadsAs (filteredCmd all filters
            ("csdiff --show-internal" ++ operand js ++ " - | cssort" ++ redirect left)).toList
          (filteredTokens all tokens
            [.text "csdiff", .text "--show-internal", .text js, .text "-", .bar, .text "cssort",
              .into, .text left]) ↔
        '\'' ∉ r.resdir.toList)) := by
  -- all three files lie below the directory of the results, so its apostrophes are theirs
  have hall : '\'' ∈ (Path.join r.debugDir "scan-results-all.js").toList ↔
      '\'' ∈ r.resdir.toList :=
    (apostrophe_join_iff (by decide) (by decide)).trans apostrophe_debugDir_iff
  have hjs : '\'' ∈ (Path.join r.resdir "scan-results.js").toList ↔ '\'' ∈ r.resdir.toList :=
    apostrophe_join_iff (by decide) (by decide)
  have hleft : '\'' ∈ (Path.join r.debugDir "suppressed-results.js").toList ↔
      '\'' ∈ r.resdir.toList :=
    (apostrophe_join_iff (by decide) (by decide)).trans apostrophe_debugDir_iff
  refine ⟨fun o =>
      reads_captureFilter_builddir_iff "/builddir/bandit-capture.err" (by decide) (by decide),
    fun o =>
      reads_captureFilter_builddir_iff "/builddir/pylint-capture.err" (by decide) (by decide),
    fun _ => reads_knownFilter_iff, fun _ => reads_transformCmds_iff, ?_, ?_⟩
  · have hsort : ReadsAs "cssort --key=path".toList [.text "cssort", .text "--key=path"] := by
      decide
    rw [reads_filteredCmd_iff hfilters, hall, String.toList_append]
    refine (and_congr_right fun _ => ?_).trans (and_self_iff ..)
    exact (readsAs_behind_iff hsort (apart_last_redirect _)).trans
      (reads_last_redirect_iff.trans (not_congr hjs))
  · have hdiff : ReadsAs "csdiff --show-internal".toList
        [.text "csdiff", .text "--show-internal"] := by decide
    have hsort : ReadsAs " - | cssort".toList [.text "-", .bar, .text "cssort"] := by decide
    have hlast (y : List Char) : Apart (" - | cssort".toList ++ y) := .inr ⟨_, rfl⟩
    rw [reads_filteredCmd_iff hfilters, hall]
    refine (and_congr_right fun hresdir => ?_).trans (and_self_iff ..)
    simp only [String.toList_append, List.append_assoc]
    refine (readsAs_behind_iff hdiff (apart_operand _)).trans ?_
    refine (reads_operand_iff (hlast _)).trans ?_
    -- the operand asks for what is known already from the file that is read
    rw [hjs, and_iff_right hresdir]
    exact (readsAs_behind_iff hsort (apart_last_redirect _)).trans
      (reads_last_redirect_iff.trans (not_congr hleft))

/-- A list of known false positives among the filters of a scan. -/
theorem values_stay_words_known :
    List.Forall₂ (fun filter words => ReadsAs filter.toList words)
        [knownFilter "/lists/known.js"] [knownTokens "/lists/known.js"] ∧
      ReadsAs
        (filteredCmd "/tmp/my scan/debug/scan-results-all.js" [knownFilter "/lists/known.js"]
          ("cssort --key=path" ++ redirect "/tmp/my scan/scan-results.js")).toList
        (filteredTokens "/tmp/my scan/debug/scan-results-all.js" [knownTokens "/lists/known.js"]
          [.text "cssort", .text "--key=path", .into, .text "/tmp/my scan/scan-results.js"]) :=
  have hfilters : List.Forall₂ (fun filter words => ReadsAs filter.toList words)
      [knownFilter "/lists/known.js"] [knownTokens "/lists/known.js"] :=
    .cons (reads_knownFilter_iff.2 (by decide)) .nil
  have hvalues := values_stay_words_iff { output := "out", resdir := "/tmp/my scan" } hfilters
  ⟨hfilters, hvalues.2.2.2.2.1.2 (by decide)⟩

/-- An apostrophe in an expression for events ends the word, and a shell runs what follows it. A
path with an apostrophe is no operand of the renderings, and a shell expands what follows a dollar
sign in the path of a list. -/
theorem values_leave_words :
    (let r : Record := { output := "out", resdir := "/tmp/scan" }
      let o : Bandit.Options := { eventFilter := "^B' | sh -c 'id" }
      ReadsAs (Setup.captureFilterCmd (Bandit.script o).capture (Bandit.script o).filter r).toList
        [.text "csgrep", .text "--quiet",
          .text "/tmp/scan/debug/raw-results/builddir/bandit-capture.err", .bar, .text "csgrep",
          .text "--event", .text "^B", .bar, .text "sh", .text "-c", .text "id", .into,
          .text "/tmp/scan/debug/uni-results/bandit-capture.err"]) ∧
    ¬ List.Forall₂ (fun command words => ReadsAs command.toList words)
      (transformCmds "/o'x/scan-results.js") (transformTokens "/o'x/scan-results.js") ∧
    ¬ ReadsAs (knownFilter "/lists/$USER.js").toList (knownTokens "/lists/$USER.js") := by
  refine ⟨by decide +kernel, fun h => ?_, fun h => ?_⟩
  · exact reads_transformCmds_iff.1 h (by decide)
  · exact absurd (reads_knownFilter_iff.1 h) (by decide)

end ChrootScan.Findings
