import Mathlib.Data.List.Perm.Basic

/-!
# Lists that are read item by item

A list is read if each of its items is, into the answers in their order (`mapM_eq_some_iff`). In
another order it has the same answers in another order (`mapM_perm`).
-/

namespace ChrootScan

variable {α β : Type} {f : α → Option β} {l l' : List α}

/-- A list is read if its items are read one by one, each into the answer in its place. -/
theorem mapM_eq_some_iff {bs : List β} :
    l.mapM f = some bs ↔ List.Forall₂ (fun a b => f a = some b) l bs := by
  induction l generalizing bs with
  | nil => simp [eq_comm]
  | cons a l ih =>
    rw [List.mapM_cons, List.forall₂_cons_left_iff]
    simp only [Option.bind_eq_bind, Option.bind_eq_some_iff, Option.pure_def, Option.some_inj, ih]
    constructor
    · rintro ⟨b, hb, bs, hbs, rfl⟩
      exact ⟨b, bs, hb, hbs, rfl⟩
    · rintro ⟨b, bs, hb, hbs, rfl⟩
      exact ⟨b, hb, bs, hbs, rfl⟩

/-- One item that is not read is enough for the list not to be read. -/
theorem mapM_eq_none_iff : l.mapM f = none ↔ ∃ a ∈ l, f a = none := by
  induction l with
  | nil => simp
  | cons a l ih =>
    rw [List.mapM_cons, List.exists_mem_cons_iff, ← ih]
    cases f a with
    | none => simp
    | some b => cases l.mapM f <;> simp

/-- The order of the items has no influence on whether they are read, and it is that of the answers.
-/
theorem mapM_perm (h : l.Perm l') {bs : List β} (hl : l.mapM f = some bs) :
    ∃ bs', l'.mapM f = some bs' ∧ bs'.Perm bs := by
  obtain ⟨bs', hbs', hperm⟩ := List.perm_comp_forall₂ h.symm (mapM_eq_some_iff.1 hl)
  exact ⟨bs', mapM_eq_some_iff.2 hbs', hperm⟩

end ChrootScan
