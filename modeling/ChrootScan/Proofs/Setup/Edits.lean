import ChrootScan.Analyzer.Gcc
import ChrootScan.Proofs.Effect
import Mathlib.Logic.Relation

/-!
# Edits of the plan

Analyzers change the plan in a small number of ways only. `Edit` lists them, and `Edits scope S`
says that some step of configuration does nothing to the plan but edits in `S`, whether it fails or
not, on a host in `scope`. What every edit keeps is then kept by whole configurations
(`Edited.keeps`), with no look at what any analyzer does. The edits that analyzers make are those of
`Edit.Allowed`.
-/

namespace ChrootScan

open Effect

/-! ## Single edits -/

/-- One way to change a plan while a scan is configured. -/
inductive Edit (η : Type)
  | addHook (phase : HookPhase) (hook : η)
  | install (pkgs : List String)
  | blacklist (pkgs : List String)
  | copyIn (files : List String)
  | copyOut (path : String)
  | setVar (name value : String)
  | afterBuild (command : String)
  | filterCapture (filter : String)
  | runCheck
  | needInstall
  | addRepos (urls : List String)
  | define (options : List String)
  /-- The compiler wrapper, whose directory is `dir`, unless it is there already. -/
  | wrap (dir : String)
  | exec
  /-- The command that built binaries run under. -/
  | execWrap (argv : List String)
  | limitTime (tools : List String)
  | enterPath (dir : String)
  | writeFlags (flags : FlagMatrix)
  | important (checker filter : String)

namespace Edit

variable {η : Type}

def apply (p : Plan η) : Edit η → Plan η
  | addHook phase hook => p.addHook phase hook
  | install pkgs => { p with installPkgs := p.installPkgs ++ pkgs }
  | blacklist pkgs => { p with installBlacklist := p.installBlacklist ++ pkgs }
  | copyIn files => { p with copyInFiles := p.copyInFiles ++ files }
  | copyOut path => { p with copyOutFiles := p.copyOutFiles ++ [path] }
  | setVar name value => { p with env := p.env.insert name value }
  | afterBuild command => { p with postBuildCmds := p.postBuildCmds ++ [command] }
  | filterCapture filter => { p with wrapFilters := p.wrapFilters ++ [filter] }
  | runCheck => { p with runCheck := true }
  | needInstall => { p with needInstall := true }
  | addRepos urls => { p with addRepos := p.addRepos ++ urls }
  | define options => { p with rpmOpts := p.rpmOpts ++ options }
  | wrap dir => if p.wrapEnabled then p else p.withWrap dir
  | exec => p.withExec
  | execWrap argv =>
    { p with env := p.env.insert Plan.execWrapVar (Text.join Plan.execSeparator argv) }
  | limitTime tools => p.addWrapTimeoutFor tools
  | enterPath dir => { p with path := dir :: p.path }
  | writeFlags flags => { p with env := flags.writeTo p.env }
  | important checker filter =>
    { p with
      importantCheckers := p.importantCheckers.insert checker ()
      importantFilters := p.importantFilters ++ [(checker, filter)] }

end Edit

/-! ## Sequences of edits -/

section
variable {η : Type} {S T : Edit η → Prop} {p p' p'' : Plan η}

/-- One plan comes from another by edits in `S`. -/
def Edited (S : Edit η → Prop) : Plan η → Plan η → Prop :=
  Relation.ReflTransGen fun p p' => ∃ e, S e ∧ p' = e.apply p

theorem Edited.refl (p : Plan η) : Edited S p p :=
  Relation.ReflTransGen.refl

theorem Edited.trans (h : Edited S p p') (h' : Edited S p' p'') : Edited S p p'' :=
  Relation.ReflTransGen.trans h h'

theorem Edited.single {e : Edit η} (he : S e) (p : Plan η) : Edited S p (e.apply p) :=
  Relation.ReflTransGen.single ⟨e, he, rfl⟩

instance : IsPreorder (Plan η) (Edited S) where
  refl := Edited.refl
  trans _ _ _ := Edited.trans

/-- A relation that every edit keeps holds across all of them. -/
theorem Edited.keeps {R : Plan η → Plan η → Prop} [IsPreorder (Plan η) R]
    (hR : ∀ e, S e → ∀ p, R p (e.apply p)) (h : Edited S p p') : R p p' := by
  induction h with
  | refl => exact refl_of R p
  | tail _ hstep ih =>
    obtain ⟨e, he, rfl⟩ := hstep
    exact trans_of R ih (hR e he _)

/-- What every edit preserves holds behind all of them. -/
theorem Edited.preserves {I : Plan η → Prop} (hI : ∀ e, S e → ∀ p, I p → I (e.apply p))
    (h : Edited S p p') (hp : I p) : I p' := by
  induction h with
  | refl => exact hp
  | tail _ hstep ih =>
    obtain ⟨e, he, rfl⟩ := hstep
    exact hI e he _ ih

/-- What comes from a plan by some edits comes from it by more of them. -/
theorem Edited.mono (h : Edited S p p') (hST : ∀ e, S e → T e) : Edited T p p' :=
  h.keeps fun e he p => Edited.single (hST e he) p

end

/-! ## Hosts in scope -/

/-- Surroundings, and states of the host that asking it does not lead out of: what is known of its
answers is known of them in these states. -/
structure Scope (σ : Type) where
  around : Surroundings σ
  states : σ → Prop
  commandOutput : ∀ argv s, states s → states (around.host.commandOutput argv s).2
  shellSucceeds : ∀ command s, states s → states (around.host.shellSucceeds command s).2

/-- All states of the host. -/
def Surroundings.scope {σ : Type} (around : Surroundings σ) : Scope σ :=
  ⟨around, fun _ => True, fun _ _ _ => trivial, fun _ _ _ => trivial⟩

/-- The host may answer that the links of a wrapper are in a directory. -/
def Scope.Reports {σ : Type} (scope : Scope σ) (wrapper dir : String) : Prop :=
  ∃ s, scope.states s ∧ (scope.around.host.commandOutput (Setup.wrapQuery wrapper) s).1 = some dir

/-! ## Edits of analyzers -/

/-- The edits that analyzers make. Directories of wrappers are those that the host reports, and
nothing but Valgrind is kept out of the chroot. Only those that watch built binaries set the command
that these run under, and only those with a wrapper of their own enter its directory. -/
def Edit.Allowed {σ : Type} (scope : Scope σ) (watch enter : Bool) : Edit Hook → Prop
  | .addHook _ (.gccAnalyzer a) => scope.Reports Gcc.analyzerWrap a.wrapPath
  | .blacklist pkgs => pkgs = [Gcc.valgrindPackage]
  | .setVar name _ => (name != Plan.execWrapVar) = true
  | .wrap dir => scope.Reports "cswrap" dir
  | .execWrap _ => watch = true
  | .enterPath _ => enter = true
  | _ => True

/-- The edits of analyzers that neither watch built binaries nor enter a directory. -/
abbrev Plain {σ : Type} (scope : Scope σ) : Edit Hook → Prop :=
  Edit.Allowed scope false false

/-- Any edit. -/
abbrev Any (_ : Edit Hook) : Prop := True

/-- Who may watch or enter may also make the edits of those who may not. -/
theorem Edit.Allowed.mono {σ : Type} {scope : Scope σ} {watch watch' enter enter' : Bool}
    {e : Edit Hook} (h : e.Allowed scope watch enter) (hwatch : watch = true → watch' = true)
    (henter : enter = true → enter' = true) : e.Allowed scope watch' enter' := by
  cases e with
  | execWrap argv => exact hwatch h
  | enterPath dir => exact henter h
  | addHook phase hook => cases hook <;> exact h
  | _ => exact h

/-- Plain edits are allowed to all analyzers. -/
theorem Edit.Allowed.of_plain {σ : Type} {scope : Scope σ} {watch enter : Bool}
    {e : Edit Hook} (h : Plain scope e) : e.Allowed scope watch enter :=
  h.mono nofun nofun

/-! ## Steps of configuration -/

namespace Setup

variable {η σ α β : Type} {around : Surroundings σ} {scope : Scope σ} {S T : Edit η → Prop}

/-- Two steps succeed if the first one does and then the second one on what the first one leaves. -/
theorem run_bind_eq_ok {d d' : Draft η σ} {x : Setup η σ α}
    {f : α → Setup η σ β} {b : β} (h : eval ((x >>= f).run around) d = (.ok b, d')) :
    ∃ a t, eval (x.run around) d = (.ok a, t) ∧ eval ((f a).run around) t = (.ok b, d') :=
  eval_bind_eq_ok h

theorem eval_getPlan_bind (f : Plan η → Setup η σ β) (d : Draft η σ) :
    eval ((getPlan >>= f).run around) d = eval ((f d.plan).run around) d := rfl

/-- The answer of the host is handed on, and the host stays in the state behind it. -/
theorem eval_commandOutput_bind (argv : List String) (f : Option String → Setup η σ β)
    (d : Draft η σ) :
    eval ((commandOutput argv >>= f).run around) d =
      eval ((f (around.host.commandOutput argv d.host).1).run around)
        ⟨d.plan, (around.host.commandOutput argv d.host).2⟩ := rfl

/-- A question about the host changes nothing. -/
theorem eval_ask_bind (question : Host σ → σ → α) (f : α → Setup η σ β) (d : Draft η σ) :
    eval ((ask question >>= f).run around) d =
      eval ((f (question around.host d.host)).run around) d := rfl

/-- The host is asked for the compiler wrapper only if it is not there yet. -/
theorem eval_enableWrap (d : Draft η σ) :
    eval (enableWrap.run around) d =
      if d.plan.wrapEnabled then (.ok (), d)
      else match around.host.commandOutput (wrapQuery "cswrap") d.host with
        | (none, s) =>
          (.error (.usage "cswrap does not seem to be installed on the host"), ⟨d.plan, s⟩)
        | (some dir, s) => (.ok (), ⟨d.plan.withWrap dir, s⟩) := by
  rw [enableWrap, eval_getPlan_bind]
  by_cases hon : d.plan.wrapEnabled = true
  · rw [if_pos hon, hon]
    rfl
  · rw [if_neg hon, Bool.eq_false_of_not_eq_true hon]
    refine (eval_commandOutput_bind (wrapQuery "cswrap") _ d).trans ?_
    rcases around.host.commandOutput (wrapQuery "cswrap") d.host with ⟨_ | dir, s⟩
    · rfl
    · rfl

/-- Binaries are linked once the compiler wrapper is there, unless they are linked already. -/
theorem eval_enableExec (d : Draft η σ) :
    eval (enableExec.run around) d =
      if d.plan.execEnabled then (.ok (), d)
      else match eval (enableWrap.run around) d with
        | (.error e, t) => (.error e, t)
        | (.ok (), t) => (.ok (), { t with plan := t.plan.withExec }) := by
  rw [enableExec, eval_getPlan_bind]
  by_cases hlinked : d.plan.execEnabled = true
  · rw [if_pos hlinked, hlinked]
    rfl
  · rw [if_neg hlinked, Bool.eq_false_of_not_eq_true hlinked]
    refine (eval_bind d (enableWrap.run around) _).trans ?_
    rcases eval (enableWrap.run around) d with ⟨e | ⟨⟩, t⟩
    · rfl
    · rfl

/-- A compiler's own wrapper is entered if the host has it. -/
theorem eval_wrapCompiler (wrapper : String) (d : Draft η σ) :
    eval ((wrapCompiler wrapper).run around) d =
      match around.host.commandOutput (wrapQuery wrapper) d.host with
      | (none, s) =>
        (.error (.usage (wrapper ++ " does not seem to be installed on the host")), ⟨d.plan, s⟩)
      | (some dir, s) =>
        (.ok dir, ⟨Edit.apply (Edit.apply d.plan (.enterPath dir))
          (.copyIn ["/usr/bin/" ++ wrapper, dir]), s⟩) := by
  refine (eval_commandOutput_bind (wrapQuery wrapper) _ d).trans ?_
  rcases around.host.commandOutput (wrapQuery wrapper) d.host with ⟨_ | dir, s⟩
  · rfl
  · rfl

/-- A script is copied if the host has it. -/
theorem eval_copyInScript (script : String) (d : Draft η σ) :
    eval ((copyInScript script).run around) d =
      if around.host.isFile d.host script then
        (.ok script, ⟨Edit.apply d.plan (.copyIn [script]), d.host⟩)
      else (.error (.usage ("helper script not found: " ++ script)), d) := by
  rw [copyInScript, eval_ask_bind]
  cases around.host.isFile d.host script with
  | true => rfl
  | false => rfl

/-- There has to be a directory to scan, and a shell command fills none of the installation. -/
theorem eval_dirsToScan (tool : String) (scanBuild scanInstall : Option Bool) (d : Draft η σ) :
    eval ((dirsToScan tool scanBuild scanInstall).run around) d =
      let build := scanBuild.getD d.plan.shellCmd.isSome
      let installed := scanInstall.getD (!d.plan.shellCmd.isSome)
      if !build && !installed then
        (.error (.usage ("either --" ++ tool ++ "-scan-build or --" ++ tool
          ++ "-scan-install must be enabled")), d)
      else if installed && d.plan.shellCmd.isSome then
        (.error (.usage ("--shell-cmd and --" ++ tool ++ "-scan-install cannot be used together")),
          d)
      else
        (.ok (Text.join " " ((if build then [Plan.buildDir] else [])
          ++ (if installed then [Plan.buildRootDir] else []))),
          ⟨if installed then Edit.apply d.plan .needInstall else d.plan, d.host⟩) := by
  rw [dirsToScan, eval_getPlan_bind]
  dsimp only
  generalize scanBuild.getD d.plan.shellCmd.isSome = build
  generalize scanInstall.getD (!d.plan.shellCmd.isSome) = installed
  cases build <;> cases installed <;> cases d.plan.shellCmd <;> rfl

/-- The plan of one draft comes from that of another by edits in `S`, and the host stays in
scope. -/
def DraftEdited (scope : Scope σ) (S : Edit η → Prop) (d d' : Draft η σ) : Prop :=
  scope.states d.host → scope.states d'.host ∧ Edited S d.plan d'.plan

instance : IsPreorder (Draft η σ) (DraftEdited scope S) where
  refl d hs := ⟨hs, Edited.refl d.plan⟩
  trans _ _ _ h h' hs := ⟨(h' (h hs).1).1, (h hs).2.trans (h' (h hs).1).2⟩

/-- A step does nothing to the plan but edits in `S`, whether it fails or not, as long as the host
is in scope, and does not lead it out. -/
def Edits (scope : Scope σ) (S : Edit η → Prop) (x : Setup η σ α) : Prop :=
  Keeps (DraftEdited scope S) (x.run scope.around)

namespace Edits

/-- What edits a plan leaves the draft behind edited. -/
theorem edited {x : Setup η σ α} (hx : Edits scope S x) {d d' : Draft η σ}
    {result : Except ScanError α} (h : eval (x.run scope.around) d = (result, d'))
    (hs : scope.states d.host) : scope.states d'.host ∧ Edited S d.plan d'.plan := by
  have hedited := hx d hs
  rwa [h] at hedited

/-- A step that makes some edits makes no others if more are looked at. -/
theorem mono {x : Setup η σ α} (h : Edits scope S x) (hST : ∀ e, S e → T e) : Edits scope T x :=
  fun d hs => (h d hs).imp_right fun hedited => hedited.mono hST

theorem pure (a : α) : Edits scope S (pure a : Setup η σ α) :=
  Keeps.pure a

/-- Two steps make the edits of both, also if the second one is not reached. -/
theorem bind {x : Setup η σ α} {f : α → Setup η σ β} (hx : Edits scope S x)
    (hf : ∀ a, Edits scope S (f a)) : Edits scope S (x >>= f) :=
  Keeps.bind hx hf

/-- What comes second may rely on what is known of the answer of the first part. -/
theorem bind_of {x : Setup η σ α} {f : α → Setup η σ β} {Q : α → Prop} (hx : Edits scope S x)
    (hQ : ∀ d d' a, scope.states d.host → eval (x.run scope.around) d = (.ok a, d') → Q a)
    (hf : ∀ a, Q a → Edits scope S (f a)) : Edits scope S (x >>= f) := by
  intro d hs
  rcases heval : eval (x.run scope.around) d with ⟨e | a, t⟩
  · rw [ReaderT.run_bind, eval_bind_error heval]
    exact hx.edited heval hs
  · obtain ⟨ht, hfirst⟩ := hx.edited heval hs
    rw [ReaderT.run_bind, eval_bind_ok heval]
    exact (hf a (hQ d t a hs heval) t ht).imp_right hfirst.trans

/-- A choice makes the edits of either step. -/
theorem ite {c : Prop} [Decidable c] {x y : Setup η σ α} (hx : Edits scope S x)
    (hy : Edits scope S y) : Edits scope S (if c then x else y) := by
  split
  · exact hx
  · exact hy

/-- A step for each item of a list makes the edits of the single ones. -/
theorem forM {f : β → Setup η σ PUnit} {l : List β} (hf : ∀ b ∈ l, Edits scope S (f b)) :
    Edits scope S (l.forM f) := by
  induction l with
  | nil => exact pure _
  | cons b l ih =>
    obtain ⟨hb, hl⟩ := List.forall_mem_cons.1 hf
    exact hb.bind fun _ => ih hl

/-- A step that leaves drafts as they are. -/
theorem of_same {x : Setup η σ α} (hx : ∀ d, (eval (x.run scope.around) d).2 = d) :
    Edits scope S x := by
  intro d
  rw [hx]
  exact refl_of (DraftEdited scope S) d

theorem read : Edits scope S (MonadReader.read : Setup η σ (Surroundings σ)) :=
  .of_same fun _ => rfl

theorem reject (text : String) : Edits scope S (reject text : Setup η σ α) :=
  .of_same fun _ => rfl

/-- What fails or succeeds without a look at the draft edits nothing. -/
theorem lift (x : Except ScanError α) : Edits scope S (liftM x : Setup η σ α) := by
  cases x with
  | ok => exact .of_same fun _ => rfl
  | error => exact .of_same fun _ => rfl

theorem getPlan : Edits scope S getPlan :=
  .of_same fun _ => rfl

/-- Applying one edit to the plan makes this edit. -/
theorem edit {e : Edit η} (he : S e) : Edits scope S (modifyPlan fun p => e.apply p) :=
  fun d hs => ⟨hs, Edited.single he d.plan⟩

/-! ### Questions to the host -/

theorem ask (question : Host σ → σ → α) : Edits scope S (ask question) :=
  .of_same fun _ => rfl

theorem commandOutput (argv : List String) : Edits scope S (commandOutput argv) :=
  fun d hs => ⟨scope.commandOutput argv d.host hs, Edited.refl d.plan⟩

theorem shellSucceeds (command : String) : Edits scope S (shellSucceeds command) :=
  fun d hs => ⟨scope.shellSucceeds command d.host hs, Edited.refl d.plan⟩

/-- A file that has to be there is looked for, and its absence is an error without an edit. -/
theorem requireFile (path : String) : Edits scope S (requireFile path) :=
  (ask _).bind fun _ => ite (reject _) (pure _)

theorem expandTilde (path : String) : Edits scope S (expandTilde path) :=
  ask _

/-! ### Single edits -/

theorem addHook {phase : HookPhase} {hook : η} (h : S (.addHook phase hook)) :
    Edits scope S (addHook phase hook) :=
  edit (e := .addHook phase hook) h

theorem install {pkgs : List String} (h : S (.install pkgs)) :
    Edits scope S (install pkgs) :=
  edit (e := .install pkgs) h

theorem copyIn {files : List String} (h : S (.copyIn files)) :
    Edits scope S (copyIn files) :=
  edit (e := .copyIn files) h

theorem copyOut {path : String} (h : S (.copyOut path)) : Edits scope S (copyOut path) :=
  edit (e := .copyOut path) h

theorem setVar {name value : String} (h : S (.setVar name value)) :
    Edits scope S (setVar name value) :=
  edit (e := .setVar name value) h

theorem afterBuild {command : String} (h : S (.afterBuild command)) :
    Edits scope S (afterBuild command) :=
  edit (e := .afterBuild command) h

theorem filterCapture {filter : String} (h : S (.filterCapture filter)) :
    Edits scope S (filterCapture filter) :=
  edit (e := .filterCapture filter) h

theorem runCheck (h : S .runCheck) : Edits scope S runCheck :=
  edit (e := .runCheck) h

theorem addRepos {urls : List String} (h : S (.addRepos urls)) :
    Edits scope S (addRepos urls) :=
  edit (e := .addRepos urls) h

theorem limitTime {tools : List String} (h : S (.limitTime tools)) :
    Edits scope S (limitTime tools) :=
  edit (e := .limitTime tools) h

theorem define {definitions : List String}
    (h : S (.define (definitions.flatMap fun d => ["--define", d]))) :
    Edits scope S (define definitions) :=
  edit (e := .define (definitions.flatMap fun d => ["--define", d])) h

theorem writeFlags {flags : FlagMatrix} (h : S (.writeFlags flags)) :
    Edits scope S (writeFlags flags) :=
  edit (e := .writeFlags flags) h

/-! ### Several edits -/

/-- Flags are put into a variable unless there are none. -/
theorem setFlagsVar {name : String} {flags : List String}
    (h : S (.setVar name (Text.join ":" flags))) :
    Edits scope S (setFlagsVar name flags) :=
  ite (setVar h) (pure _)

/-- A script is copied in, or refused if the host does not have it. -/
theorem copyInScript {script : String} (h : S (.copyIn [script])) :
    Edits scope S (copyInScript script) :=
  (ask _).bind fun _ => ite ((reject _).bind fun _ => (copyIn h).bind fun _ => pure _)
    ((copyIn h).bind fun _ => pure _)

theorem helper {name : String} (h : ∀ script, S (.copyIn [script])) :
    Edits scope S (helper name) :=
  read.bind fun _ => copyInScript (h _)

/-- Turning the compiler wrapper on is one edit, with a directory that the host reports, or none. -/
theorem enableWrap (h : ∀ dir, scope.Reports "cswrap" dir → S (.wrap dir)) :
    Edits scope S enableWrap := by
  intro d hs
  rw [eval_enableWrap]
  by_cases hon : d.plan.wrapEnabled = true
  · rw [if_pos hon]
    exact ⟨hs, Edited.refl d.plan⟩
  · rw [if_neg hon]
    have hasked := scope.commandOutput (wrapQuery "cswrap") d.host hs
    rcases hanswer : scope.around.host.commandOutput (wrapQuery "cswrap") d.host with ⟨_ | dir, s⟩
    · rw [hanswer] at hasked
      exact ⟨hasked, Edited.refl d.plan⟩
    · rw [hanswer] at hasked
      have hwrap := Edited.single (h dir ⟨d.host, hs, congrArg Prod.fst hanswer⟩) d.plan
      rw [Edit.apply, if_neg hon] at hwrap
      exact ⟨hasked, hwrap⟩

/-- Linking is turned on by two edits, the one of the compiler wrapper first. -/
theorem enableExec (h : ∀ dir, scope.Reports "cswrap" dir → S (.wrap dir)) (h' : S .exec) :
    Edits scope S enableExec :=
  getPlan.bind fun _ => ite ((enableWrap h).bind fun _ => edit (e := .exec) h') (pure _)

/-- Setting the command that built binaries run under is one edit, or an error. -/
theorem setExecWrap {argv : List String} (h : S (.execWrap argv)) :
    Edits scope S (setExecWrap argv) := by
  intro d hs
  rw [Setup.setExecWrap, eval_getPlan_bind]
  unfold Plan.setExecWrap
  -- a command that is set already is not replaced: the draft stays as it is
  by_cases howned : d.plan.env.contains Plan.execWrapVar = true
  · rw [if_pos howned]
    exact ⟨hs, Edited.refl d.plan⟩
  · rw [if_neg howned]
    exact ⟨hs, Edited.single h d.plan⟩

/-- A wrapper of the host is entered and copied in. -/
theorem wrapCompiler {wrapper : String} (h : ∀ dir, S (.enterPath dir))
    (h' : ∀ dir, S (.copyIn ["/usr/bin/" ++ wrapper, dir])) :
    Edits scope S (wrapCompiler wrapper) := by
  refine (commandOutput _).bind fun dir => ?_
  cases dir with
  | none => exact reject _
  | some dir =>
    exact (edit (e := .enterPath dir) (h dir)).bind fun _ => (copyIn (h' dir)).bind fun _ => pure _

/-- A compiler is chosen by two variables and the macros that go with them. -/
theorem useCompiler {cc cxx : String} (h : S (.setVar "CC" cc)) (h' : S (.setVar "CXX" cxx))
    (hdefine : ∀ options, S (.define options)) : Edits scope S (useCompiler cc cxx) :=
  (setVar h).bind fun _ => (setVar h').bind fun _ => define (hdefine _)

/-- Choosing directories to scan asks for the stage that fills the one of the installation. -/
theorem dirsToScan (tool : String) (scanBuild scanInstall : Option Bool) (h : S .needInstall) :
    Edits scope S (dirsToScan tool scanBuild scanInstall) := by
  refine getPlan.bind fun _ => ite ((reject _).bind fun _ => ?guarded) ?guarded
  refine ite ((reject _).bind fun _ => ?needed) ?needed
  exact ite ((edit (e := .needInstall) h).bind fun _ => pure _) (pure _)

end Edits
end Setup
end ChrootScan
