import ChrootScan.Proofs.Setup.Edits

/-!
# Directories in front of the path

The compiler wrapper is put in front of an empty path once, and an analyzer with a wrapper of its
own turns it on before it enters its own directory. So the directory of the compiler wrapper stays
the last one in the path, behind those that were entered (`Plan.Lined`). `Enters` says that a step
puts the directory of one wrapper in front of them.
-/

namespace ChrootScan

open Effect

variable {η σ α β : Type} {scope : Scope σ}

/-! ## Plans -/

namespace Plan

variable {p : Plan η} {dirs : List String}

/-- The compiler wrapper is on, and its directory is the last one in the path, behind `dirs`. -/
structure Lined (scope : Scope σ) (dirs : List String) (p : Plan η) : Prop where
  enabled : p.wrapEnabled = true
  path : ∃ dir, scope.Reports "cswrap" dir ∧ p.wrapPath = some dir ∧ p.path = dirs ++ [dir]

/-- The directories in front of that of the compiler wrapper are `dirs`; there are none as long as
it is off. -/
def Fronted (scope : Scope σ) (dirs : List String) (p : Plan η) : Prop :=
  p.Lined scope dirs ∨ dirs = [] ∧ p.wrapEnabled = false ∧ p.path = []

/-- Only the wrapper and the path decide where the directory of the wrapper stands. -/
theorem Lined.of_same {p' : Plan η} (h : p.Lined scope dirs)
    (henabled : p'.wrapEnabled = p.wrapEnabled) (hwrap : p'.wrapPath = p.wrapPath)
    (hpath : p'.path = p.path) : p'.Lined scope dirs := by
  obtain ⟨dir, hreported, hdir, hdirs⟩ := h.path
  exact ⟨henabled.trans h.enabled, dir, hreported, hwrap.trans hdir, hpath.trans hdirs⟩

/-- A directory that is entered stands in front of all others, so that of the wrapper stays last. -/
theorem Lined.enterPath (h : p.Lined scope dirs) (dir : String) :
    (Edit.apply p (.enterPath dir)).Lined scope (dir :: dirs) := by
  obtain ⟨last, hreported, hlast, hpath⟩ := h.path
  exact ⟨h.enabled, last, hreported, hlast, congrArg (dir :: ·) hpath⟩

/-- Turning the compiler wrapper on lines the directories up. -/
theorem Fronted.wrap (h : p.Fronted scope dirs) {dir : String}
    (hdir : scope.Reports "cswrap" dir) : (Edit.apply p (.wrap dir)).Lined scope dirs := by
  rcases h with h | ⟨rfl, hoff, hpath⟩
  · rw [Edit.apply, if_pos h.enabled]
    exact h
  · rw [Edit.apply, if_neg (by simp [hoff])]
    exact ⟨rfl, dir, hdir, rfl, congrArg (dir :: ·) hpath⟩

end Plan

/-! ## Edits that enter nothing -/

/-- An edit that enters nothing leaves the directories in front of that of the wrapper. -/
theorem Edit.lined {watch : Bool} {e : Edit Hook} (he : e.Allowed scope watch false)
    {p : Plan Hook} {dirs : List String} (h : p.Lined scope dirs) :
    (e.apply p).Lined scope dirs := by
  cases e with
  | enterPath dir => cases he
  | wrap dir => exact Plan.Fronted.wrap (.inl h) he
  | addHook phase hook => cases phase <;> exact h.of_same rfl rfl rfl
  | _ => exact h.of_same rfl rfl rfl

/-- An edit that enters nothing leaves the directories in front, also if it turns the wrapper on. -/
theorem Edit.fronted {watch : Bool} {e : Edit Hook} (he : e.Allowed scope watch false)
    {p : Plan Hook} {dirs : List String} (h : p.Fronted scope dirs) :
    (e.apply p).Fronted scope dirs := by
  rcases h with h | h
  · exact .inl (e.lined he h)
  · cases e with
    | enterPath dir => cases he
    | wrap dir => exact .inl (Plan.Fronted.wrap (.inr h) he)
    | addHook phase hook => cases phase <;> exact .inr h
    | _ => exact .inr h

namespace Setup

variable {watch : Bool} {d d' : Draft Hook σ} {dirs : List String}

/-- A step that enters nothing leaves the directories in front of that of the wrapper, also when it
fails half-way. -/
theorem Edits.lined {x : Setup Hook σ α} (hx : Edits scope (Edit.Allowed scope watch false) x)
    {result : Except ScanError α} (h : eval (x.run scope.around) d = (result, d'))
    (hs : scope.states d.host) (hd : d.plan.Lined scope dirs) : d'.plan.Lined scope dirs :=
  (hx.edited h hs).2.preserves (fun e he _ => e.lined he) hd

/-- A step that enters nothing leaves the directories in front, whether or not it turns the wrapper
on. -/
theorem Edits.fronted {x : Setup Hook σ α} (hx : Edits scope (Edit.Allowed scope watch false) x)
    {result : Except ScanError α} (h : eval (x.run scope.around) d = (result, d'))
    (hs : scope.states d.host) (hd : d.plan.Fronted scope dirs) : d'.plan.Fronted scope dirs :=
  (hx.edited h hs).2.preserves (fun e he _ => e.fronted he) hd

/-! ## Steps that enter a directory -/

/-- A step does nothing to the plan but edits and, when it succeeds, has put the directory of a
wrapper in front of those that were there. -/
structure Enters (scope : Scope σ) (wrapper : String) (x : Setup Hook σ α) : Prop where
  edits : Edits scope (Edit.Allowed scope false true) x
  entered : ∀ {d d' : Draft Hook σ} {a : α} {dirs : List String},
    eval (x.run scope.around) d = (.ok a, d') → scope.states d.host → d.plan.Lined scope dirs →
      ∃ dir, scope.Reports wrapper dir ∧ d'.plan.Lined scope (dir :: dirs)

namespace Enters

variable {wrapper : String} {x : Setup Hook σ α} {f : α → Setup Hook σ β}

/-- A step that enters nothing may come before the one that enters. -/
theorem after (hx : Edits scope (Plain scope) x) (hf : ∀ a, Enters scope wrapper (f a)) :
    Enters scope wrapper (x >>= f) := by
  refine ⟨(hx.mono fun _ => .of_plain).bind fun a => (hf a).edits, fun h hs hd => ?_⟩
  obtain ⟨a, t, hfirst, hsecond⟩ := run_bind_eq_ok h
  exact (hf a).entered hsecond (hx.edited hfirst hs).1 (hx.lined hfirst hs hd)

/-- A step that enters nothing may follow the one that enters. -/
theorem before (hx : Enters scope wrapper x) (hf : ∀ a, Edits scope (Plain scope) (f a)) :
    Enters scope wrapper (x >>= f) := by
  refine ⟨hx.edits.bind fun a => (hf a).mono fun _ => .of_plain, fun h hs hd => ?_⟩
  obtain ⟨a, t, hfirst, hsecond⟩ := run_bind_eq_ok h
  obtain ⟨dir, hreported, hlined⟩ := hx.entered hfirst hs hd
  exact ⟨dir, hreported, (hf a).lined hsecond (hx.edits.edited hfirst hs).1 hlined⟩

/-- The step that puts a wrapper around the compiler enters the directory that the host reports for
it. -/
theorem wrapCompiler (wrapper : String) : Enters scope wrapper (wrapCompiler wrapper) := by
  refine ⟨.wrapCompiler (fun _ => rfl) fun _ => trivial, fun {d d' a dirs} h hs hd => ?_⟩
  rw [eval_wrapCompiler] at h
  rcases hanswer : scope.around.host.commandOutput (wrapQuery wrapper) d.host with ⟨_ | dir, s⟩
  · rw [hanswer] at h
    cases h
  · rw [hanswer] at h
    cases h
    refine ⟨a, ⟨d.host, hs, congrArg Prod.fst hanswer⟩, ?_⟩
    exact (hd.enterPath a).of_same rfl rfl rfl

end Enters

/-- Turning the compiler wrapper on lines the directories up. -/
theorem lined_of_enableWrap (h : eval (enableWrap.run scope.around) d = (.ok (), d'))
    (hs : scope.states d.host) (hd : d.plan.Fronted scope dirs) : d'.plan.Lined scope dirs := by
  rw [eval_enableWrap] at h
  by_cases hon : d.plan.wrapEnabled = true
  · rw [if_pos hon] at h
    cases h
    exact hd.resolve_right fun hoff => Bool.eq_false_iff.1 hoff.2.1 hon
  · rw [if_neg hon] at h
    rcases hanswer : scope.around.host.commandOutput (wrapQuery "cswrap") d.host with ⟨_ | dir, s⟩
    · rw [hanswer] at h
      cases h
    · rw [hanswer] at h
      cases h
      have hlined := hd.wrap ⟨d.host, hs, congrArg Prod.fst hanswer⟩
      rwa [Edit.apply, if_neg hon] at hlined

/-- A step turns the compiler wrapper on and then puts the directory of another wrapper in front. -/
def Wraps (scope : Scope σ) (wrapper : String) (x : Setup Hook σ α) : Prop :=
  ∃ rest, x = (enableWrap >>= fun _ => rest) ∧ Enters scope wrapper rest

namespace Wraps

variable {wrapper : String} {x : Setup Hook σ α}

/-- Turning the wrapper on and entering are edits of the plan, of the kinds that are allowed. -/
theorem edits (hx : Wraps scope wrapper x) : Edits scope (Edit.Allowed scope false true) x := by
  obtain ⟨rest, rfl, hrest⟩ := hx
  exact .bind (.enableWrap fun _ h => h) fun _ => hrest.edits

/-- Behind both steps the directory of the wrapper is in front of those that were there. -/
theorem entered (hx : Wraps scope wrapper x) {a : α} (h : eval (x.run scope.around) d = (.ok a, d'))
    (hs : scope.states d.host) (hd : d.plan.Fronted scope dirs) :
    ∃ dir, scope.Reports wrapper dir ∧ d'.plan.Lined scope (dir :: dirs) := by
  obtain ⟨rest, rfl, hrest⟩ := hx
  obtain ⟨⟨⟩, t, hwrap, h⟩ := run_bind_eq_ok h
  have hedits : Edits scope (Plain scope) enableWrap := .enableWrap fun _ h => h
  exact hrest.entered h (hedits.edited hwrap hs).1 (lined_of_enableWrap hwrap hs hd)

end Wraps
end Setup
end ChrootScan
