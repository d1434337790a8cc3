import ChrootScan.Analyzer.Dynamic
import ChrootScan.Proofs.Flags.Writing
import ChrootScan.Proofs.Setup.Edits

/-!
# Commands that built binaries run under

The command that built binaries run under is one entry of the environment, and the only way to set
it fails if it is set already. `Plan.PutUnder` keeps account of the commands that are set on the way
from one plan to another: there is never room for a second one. `Watches` says which command a step
sets if it succeeds.
-/

namespace ChrootScan

open Effect

/-! ## Account of the commands -/

namespace Plan

variable {η : Type} {p p' p'' : Plan η} {commands more : List String}

/-- The command that built binaries run under. -/
def watch? (p : Plan η) : Option String :=
  p.env.get? execWrapVar

/-- There is no command exactly if the environment does not hold its variable. -/
theorem watch?_eq_none_iff : p.watch? = none ↔ p.env.contains execWrapVar = false := by
  rw [Dict.contains, Option.isSome_eq_false_iff, Option.isNone_iff_eq_none, watch?]

/-- Built binaries are linked such that they run under a command, the words of which are `argv`. -/
structure WatchedBy (p : Plan η) (argv : List String) : Prop where
  command : p.env.get? execWrapVar = some (Text.join execSeparator argv)
  linked : p.execEnabled = true

/-- On the way from one plan to another, built binaries are put under these commands one by one, and
linked before. -/
structure PutUnder (commands : List String) (p p' : Plan η) : Prop where
  watch : p'.watch?.toList = p.watch?.toList ++ commands
  kept : p.execEnabled = true → p'.execEnabled = true
  linked : commands ≠ [] → p'.execEnabled = true

namespace PutUnder

/-- A step that leaves the command and the links alone puts binaries under none. -/
theorem of_same (hwatch : p'.watch? = p.watch?)
    (hkept : p.execEnabled = true → p'.execEnabled = true) : PutUnder [] p p' := by
  refine ⟨?_, hkept, fun hne => absurd rfl hne⟩
  rw [hwatch, List.append_nil]

theorem refl (p : Plan η) : PutUnder [] p p :=
  of_same rfl id

/-- The commands of two stretches of the way are those of both, in this order. -/
theorem trans (h : PutUnder commands p p') (h' : PutUnder more p' p'') :
    PutUnder (commands ++ more) p p'' := by
  refine ⟨?_, h'.kept ∘ h.kept, fun hne => ?_⟩
  · rw [h'.watch, h.watch, List.append_assoc]
  · -- a command that is set on the second part of the way has the binaries linked there
    by_cases hmore : more = []
    · apply h'.kept
      apply h.linked
      rwa [hmore, List.append_nil] at hne
    · exact h'.linked hmore

instance : IsPreorder (Plan η) (PutUnder []) where
  refl := refl
  trans _ _ _ := trans

/-- No plan has room for two commands. -/
theorem length_le_one (h : PutUnder commands p p') : commands.length ≤ 1 := by
  have hroom : p'.watch?.toList.length ≤ 1 := Option.length_toList_le
  rw [h.watch, List.length_append] at hroom
  omega

/-- Where no command was set on the way, there is none at its end unless there was one before. -/
theorem watch?_eq_none (h : PutUnder [] p p') (hp : p.watch? = none) : p'.watch? = none := by
  have hwatch := h.watch
  rw [hp, Option.toList_none, List.append_nil] at hwatch
  exact Option.toList_eq_nil_iff.1 hwatch

/-- A command set on the way from a plan without one is what binaries run under at its end. -/
theorem watchedBy {commands : List (List String)} {argv : List String}
    (h : PutUnder (commands.map (Text.join execSeparator)) p p') (hp : p.watch? = none)
    (hargv : argv ∈ commands) : p'.WatchedBy argv := by
  have hmem := List.mem_map_of_mem (f := Text.join execSeparator) hargv
  have hwatch := h.watch
  rw [hp, Option.toList_none, List.nil_append] at hwatch
  refine ⟨?_, h.linked (List.ne_nil_of_mem hmem)⟩
  rw [← hwatch, Option.mem_toList] at hmem
  exact hmem

end PutUnder
end Plan

/-! ## Plain edits -/

/-- Flags of the compilers are written into other variables. -/
theorem FlagMatrix.get?_writeTo_execWrapVar (m : FlagMatrix) (env : Env) :
    (m.writeTo env).get? Plan.execWrapVar = env.get? Plan.execWrapVar :=
  get?_writeTo_of_not_mem (by decide) m env

/-- An edit that is allowed to those who do not watch leaves the command alone. -/
theorem Edit.putUnder {σ : Type} {scope : Scope σ} {enter : Bool} {e : Edit Hook}
    (he : e.Allowed scope false enter) (p : Plan Hook) : Plan.PutUnder [] p (e.apply p) := by
  -- every variable that is written has another name
  cases e with
  | execWrap argv => cases he
  | setVar name value =>
    have hne : Plan.execWrapVar ≠ name := fun heq => bne_iff_ne.1 he heq.symm
    exact .of_same (Dict.get?_insert_of_ne hne _) id
  | addHook phase hook => cases phase <;> exact .of_same rfl id
  | wrap dir =>
    rw [apply]
    split
    · exact .refl p
    · refine .of_same ?_ id
      have htimeout : Plan.execWrapVar ≠ Plan.wrapTimeoutVar := by decide
      have hcapture : Plan.execWrapVar ≠ Plan.wrapCaptureVar := by decide
      exact (Dict.get?_insert_of_ne htimeout _).trans (Dict.get?_insert_of_ne hcapture _)
  | exec => exact .of_same (FlagMatrix.get?_writeTo_execWrapVar _ _) fun _ => rfl
  | limitTime tools =>
    have hne : Plan.execWrapVar ≠ Plan.wrapTimeoutForVar := by decide
    exact .of_same (Dict.get?_insert_of_ne hne _) id
  | writeFlags flags => exact .of_same (FlagMatrix.get?_writeTo_execWrapVar _ _) id
  | _ => exact .of_same rfl id

/-! ## Steps that set a command -/

namespace Setup

variable {σ α β : Type} {around : Surroundings σ} {scope : Scope σ} {enter : Bool}
  {d d' : Draft Hook σ}

/-- Steps that do not watch leave the command alone, also when they fail half-way. -/
theorem Edits.putUnder {x : Setup Hook σ α} (hx : Edits scope (Edit.Allowed scope false enter) x)
    {result : Except ScanError α} (h : eval (x.run scope.around) d = (result, d'))
    (hs : scope.states d.host) : Plan.PutUnder [] d.plan d'.plan :=
  (hx.edited h hs).2.keeps fun e he p => e.putUnder he p

/-- A step does nothing to the plan but edits and, when it succeeds, has put built binaries under a
command, if it has one. It may enter directories into the path if `enter` says so. -/
structure Watches (scope : Scope σ) (enter : Bool) (cmd? : Option (List String))
    (x : Setup Hook σ α) : Prop where
  edits : Edits scope (Edit.Allowed scope cmd?.isSome enter) x
  putUnder : ∀ {d d' : Draft Hook σ} {a : α}, eval (x.run scope.around) d = (.ok a, d') →
    scope.states d.host →
      Plan.PutUnder (cmd?.toList.map (Text.join Plan.execSeparator)) d.plan d'.plan

/-- A step that makes no edits but those allowed to all watches nothing. -/
theorem Edits.watches {x : Setup Hook σ α}
    (hx : Edits scope (Edit.Allowed scope false enter) x) : Watches scope enter none x :=
  ⟨hx, hx.putUnder⟩

namespace Watches

variable {cmd? : Option (List String)} {x : Setup Hook σ α} {f : α → Setup Hook σ β}

/-- Plain edits may come before the step that sets the command. -/
theorem after (hx : Edits scope (Plain scope) x) (hf : ∀ a, Watches scope enter cmd? (f a)) :
    Watches scope enter cmd? (x >>= f) := by
  refine ⟨(hx.mono fun _ => .of_plain).bind fun a => (hf a).edits, fun h hs => ?_⟩
  obtain ⟨a, t, hfirst, hsecond⟩ := run_bind_eq_ok h
  exact (hx.putUnder hfirst hs).trans ((hf a).putUnder hsecond (hx.edited hfirst hs).1)

/-- Plain edits may follow the step that sets the command. -/
theorem before (hx : Watches scope enter cmd? x) (hf : ∀ a, Edits scope (Plain scope) (f a)) :
    Watches scope enter cmd? (x >>= f) := by
  refine ⟨hx.edits.bind fun a => (hf a).mono fun _ => .of_plain, fun h hs => ?_⟩
  obtain ⟨a, t, hfirst, hsecond⟩ := run_bind_eq_ok h
  have ht := (hx.edits.edited hfirst hs).1
  have hput := (hx.putUnder hfirst hs).trans ((hf a).putUnder hsecond ht)
  rwa [List.append_nil] at hput

end Watches

/-- Once linking is turned on, it is on, whoever has done it. -/
theorem execEnabled_of_enableExec (h : eval ((enableExec : Setup Hook σ Unit).run around) d =
    (.ok (), d')) : d'.plan.execEnabled = true := by
  rw [eval_enableExec] at h
  by_cases hlinked : d.plan.execEnabled = true
  · rw [if_pos hlinked] at h
    cases h
    exact hlinked
  · rw [if_neg hlinked] at h
    rcases hwrap : eval ((enableWrap : Setup Hook σ Unit).run around) d with ⟨e | ⟨⟩, t⟩
    · rw [hwrap] at h
      cases h
    · rw [hwrap] at h
      cases h
      rfl

/-- Setting a command succeeds only if there is none. -/
theorem watch?_of_setExecWrap {argv : List String}
    (h : eval ((setExecWrap argv : Setup Hook σ Unit).run around) d = (.ok (), d')) :
    d.plan.watch? = none ∧ d'.plan.watch? = some (Text.join Plan.execSeparator argv) ∧
      d'.plan.execEnabled = d.plan.execEnabled := by
  obtain ⟨p, t, hplan, h⟩ := run_bind_eq_ok h
  cases hplan
  unfold Plan.setExecWrap at h
  by_cases howned : d.plan.env.contains Plan.execWrapVar = true
  · rw [if_pos howned] at h
    cases h
  · rw [if_neg howned] at h
    cases h
    rw [Bool.not_eq_true] at howned
    exact ⟨Plan.watch?_eq_none_iff.2 howned, Dict.get?_insert_self _, rfl⟩

/-- What dynamic analyzers have in common puts built binaries under a command. -/
theorem watches_runUnder (tool captureDir : String) (argv : List String) :
    Watches scope enter (some argv) (runUnder tool captureDir argv) := by
  have hexec : Edits scope (Plain scope) enableExec := .enableExec (fun _ h => h) trivial
  have hdir : Edits scope (Plain scope) (createCaptureDir tool captureDir) := .addHook trivial
  refine ⟨?_, fun {d d'} _ h hs => ?_⟩
  · refine (hexec.mono fun _ => .of_plain).bind fun _ => ?_
    exact (hdir.mono fun _ => .of_plain).bind fun _ => .setExecWrap rfl
  obtain ⟨⟨⟩, d₁, hfirst, h⟩ := run_bind_eq_ok h
  obtain ⟨⟨⟩, d₂, hsecond, hset⟩ := run_bind_eq_ok h
  have hput := (hexec.putUnder hfirst hs).trans
    (hdir.putUnder hsecond (hexec.edited hfirst hs).1)
  -- the binaries are linked already when the command is set
  have hlinked : d₂.plan.execEnabled = true :=
    (hdir.putUnder hsecond (hexec.edited hfirst hs).1).kept (execEnabled_of_enableExec hfirst)
  obtain ⟨hnone, hsome, hsame⟩ := watch?_of_setExecWrap hset
  refine hput.trans ⟨?_, fun _ => hsame.trans hlinked, fun _ => hsame.trans hlinked⟩
  rw [hnone, hsome]
  rfl

end Setup
end ChrootScan
