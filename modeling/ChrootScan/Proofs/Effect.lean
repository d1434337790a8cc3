import Mathlib.Order.Defs.Unbundled
import Mathlib.Tactic

/-!
# Work on a state that may fail

Every part of a scan is work of one kind: it changes a state and ends with a value or an error,
what was changed before an error staying. `eval` and `act` run such work on a state, with one
equation for every way that work is put together. `Keeps` says that a relation holds between the
state before and the state after, whatever the outcome; for a preorder it passes from the parts to
the whole.
-/

namespace ChrootScan
namespace Effect

variable {ε σ α β : Type}

/-- The outcome of work and the state that it leaves. -/
def eval (x : ExceptT ε (StateM σ) α) (s : σ) : Except ε α × σ :=
  x.run.run s

/-- The answer of a step that cannot fail, and the state that it leaves. -/
def act (x : StateM σ α) (s : σ) : α × σ :=
  x.run s

/-- Work is told apart by what it does to states. -/
theorem eval_ext {x y : ExceptT ε (StateM σ) α} (h : ∀ s, eval x s = eval y s) : x = y :=
  funext h

/-! ## Equations -/

section
variable (s : σ)

@[simp] theorem act_pure (a : α) : act (pure a) s = (a, s) := rfl

@[simp] theorem act_bind (x : StateM σ α) (f : α → StateM σ β) :
    act (x >>= f) s = act (f (act x s).1) (act x s).2 := rfl

@[simp] theorem act_get : act get s = (s, s) := rfl

@[simp] theorem act_modify (f : σ → σ) : act (modify f) s = ((), f s) := rfl

@[simp] theorem act_modifyGet (f : σ → α × σ) : act (modifyGet f) s = f s := rfl

@[simp] theorem act_ite (c : Prop) [Decidable c] (x y : StateM σ α) :
    act (if c then x else y) s = if c then act x s else act y s := by
  split <;> rfl

@[simp] theorem eval_pure (a : α) : eval (pure a : ExceptT ε (StateM σ) α) s = (.ok a, s) := rfl

@[simp] theorem eval_throw (e : ε) :
    eval (throw e : ExceptT ε (StateM σ) α) s = (.error e, s) := rfl

@[simp] theorem eval_liftM (x : StateM σ α) :
    eval (liftM x : ExceptT ε (StateM σ) α) s = (.ok (act x s).1, (act x s).2) := rfl

@[simp] theorem eval_get : eval (get : ExceptT ε (StateM σ) σ) s = (.ok s, s) := rfl

@[simp] theorem eval_set (t : σ) : eval (set t : ExceptT ε (StateM σ) PUnit) s = (.ok ⟨⟩, t) := rfl

@[simp] theorem eval_modify (f : σ → σ) :
    eval (modify f : ExceptT ε (StateM σ) PUnit) s = (.ok ⟨⟩, f s) := rfl

@[simp] theorem eval_ite (c : Prop) [Decidable c] (x y : ExceptT ε (StateM σ) α) :
    eval (if c then x else y) s = if c then eval x s else eval y s := by
  split <;> rfl

/-- What comes second starts where the first part ended. -/
theorem eval_bind_ok {x : ExceptT ε (StateM σ) α} {s t : σ} {a : α} (h : eval x s = (.ok a, t))
    (f : α → ExceptT ε (StateM σ) β) : eval (x >>= f) s = eval (f a) t := by
  have hx : x s = (.ok a, t) := h
  simp only [eval, ExceptT.run, bind, ExceptT.bind, ExceptT.mk, StateT.run, StateT.bind, hx]
  rfl

/-- What comes second does not start after an error. -/
theorem eval_bind_error {x : ExceptT ε (StateM σ) α} {s t : σ} {e : ε}
    (h : eval x s = (.error e, t)) (f : α → ExceptT ε (StateM σ) β) :
    eval (x >>= f) s = (.error e, t) := by
  have hx : x s = (.error e, t) := h
  simp only [eval, ExceptT.run, bind, ExceptT.bind, ExceptT.mk, StateT.run, StateT.bind, hx]
  rfl

/-- The second step runs on the state the first one leaves, unless the first one fails: then its
error and its state are those of both. -/
theorem eval_bind (x : ExceptT ε (StateM σ) α) (f : α → ExceptT ε (StateM σ) β) :
    eval (x >>= f) s = match eval x s with
      | (.ok a, t) => eval (f a) t
      | (.error e, t) => (.error e, t) := by
  rcases h : eval x s with ⟨e | a, t⟩
  · exact eval_bind_error h f
  · exact eval_bind_ok h f

/-- Two parts that succeed together succeed one by one. -/
theorem eval_bind_eq_ok {x : ExceptT ε (StateM σ) α} {f : α → ExceptT ε (StateM σ) β} {s u : σ}
    {b : β} (h : eval (x >>= f) s = (.ok b, u)) :
    ∃ a t, eval x s = (.ok a, t) ∧ eval (f a) t = (.ok b, u) := by
  rcases hx : eval x s with ⟨e | a, t⟩
  · rw [eval_bind_error hx] at h
    cases h
  · rw [eval_bind_ok hx] at h
    exact ⟨a, t, rfl, h⟩

/-- A step that cannot fail hands its answer on. -/
@[simp] theorem eval_liftM_bind (x : StateM σ α) (f : α → ExceptT ε (StateM σ) β) :
    eval (liftM x >>= f) s = eval (f (act x s).1) (act x s).2 :=
  eval_bind_ok (eval_liftM s x) f

@[simp] theorem eval_get_bind (f : σ → ExceptT ε (StateM σ) β) :
    eval (get >>= f) s = eval (f s) s :=
  eval_bind_ok (eval_get s) f

@[simp] theorem eval_modify_bind (g : σ → σ) (f : PUnit → ExceptT ε (StateM σ) β) :
    eval (modify g >>= f) s = eval (f ⟨⟩) (g s) :=
  eval_bind_ok (eval_modify s g) f

@[simp] theorem eval_set_bind (t : σ) (f : PUnit → ExceptT ε (StateM σ) β) :
    eval (set t >>= f) s = eval (f ⟨⟩) t :=
  eval_bind_ok (eval_set s t) f

end

/-! ## Relations between before and after -/

/-- A relation holds between the state before a step and the state after it. -/
def Moves (R : σ → σ → Prop) (x : StateM σ α) : Prop :=
  ∀ s, R s (act x s).2

/-- A relation holds between the state before work and the state after it, with or without an
error. -/
def Keeps (R : σ → σ → Prop) (x : ExceptT ε (StateM σ) α) : Prop :=
  ∀ s, R s (eval x s).2

section
variable {R : σ → σ → Prop} [IsPreorder σ R]

theorem Moves.pure (a : α) : Moves R (pure a : StateM σ α) :=
  fun s => refl_of R s

/-- Two steps that keep a relation which is transitive keep it one behind the other. -/
theorem Moves.bind {x : StateM σ α} {f : α → StateM σ β} (hx : Moves R x)
    (hf : ∀ a, Moves R (f a)) : Moves R (x >>= f) :=
  fun s => trans_of R (hx s) (hf _ _)

omit [IsPreorder σ R] in
/-- A choice between steps that keep a relation keeps it, whichever is taken. -/
theorem Moves.ite {c : Prop} [Decidable c] {x y : StateM σ α} (hx : Moves R x) (hy : Moves R y) :
    Moves R (if c then x else y) := by
  split
  · exact hx
  · exact hy

theorem Keeps.pure (a : α) : Keeps R (pure a : ExceptT ε (StateM σ) α) :=
  fun s => refl_of R s

/-- Giving up leaves the state alone, so it keeps every relation that is reflexive. -/
theorem Keeps.throw (e : ε) : Keeps R (throw e : ExceptT ε (StateM σ) α) :=
  fun s => refl_of R s

theorem Keeps.get : Keeps R (get : ExceptT ε (StateM σ) σ) :=
  fun s => refl_of R s

omit [IsPreorder σ R] in
/-- A step that cannot fail keeps what it moves along. -/
theorem Keeps.liftM {x : StateM σ α} (hx : Moves R x) :
    Keeps R (liftM x : ExceptT ε (StateM σ) α) :=
  hx

/-- Two steps keep a relation one behind the other, also if the first one fails. -/
theorem Keeps.bind {x : ExceptT ε (StateM σ) α} {f : α → ExceptT ε (StateM σ) β}
    (hx : Keeps R x) (hf : ∀ a, Keeps R (f a)) : Keeps R (x >>= f) := by
  intro s
  have hs := hx s
  rcases h : eval x s with ⟨e | a, t⟩
  · rw [eval_bind_error h]
    rwa [h] at hs
  · rw [eval_bind_ok h]
    rw [h] at hs
    exact trans_of R hs (hf a t)

omit [IsPreorder σ R] in
/-- A choice between steps keeps what both keep. -/
theorem Keeps.ite {c : Prop} [Decidable c] {x y : ExceptT ε (StateM σ) α} (hx : Keeps R x)
    (hy : Keeps R y) : Keeps R (if c then x else y) := by
  split
  · exact hx
  · exact hy

/-- A step for every item of a list keeps what each single one keeps. -/
theorem Keeps.forM {f : β → ExceptT ε (StateM σ) PUnit} (hf : ∀ b, Keeps R (f b)) (l : List β) :
    Keeps R (l.forM f) := by
  induction l with
  | nil => exact Keeps.pure _
  | cons b l ih => exact (hf b).bind fun _ => ih

end

end Effect
end ChrootScan
