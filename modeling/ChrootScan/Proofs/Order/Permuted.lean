import ChrootScan.Proofs.Order.Cycles

/-!
# Items in another order

What an arrangement looks like is fixed by the items alone: behind those placed so far comes the
least that may follow, and with distinct names no two items are of one rank. So items that are given
in another order are arranged in the same way, and either both times or neither time there is an
order at all.
-/

namespace ChrootScan
namespace Ranked

/-- Two items of which neither ranks behind the other one have the same name. -/
theorem name_eq_of_le_of_le {a b : Ranked} (hab : a.le b) (hba : b.le a) : a.name = b.name := by
  rcases hab with hlt | ⟨heq, hname⟩
  · rcases hba with hlt' | ⟨heq', -⟩
    · exact absurd (hlt.trans hlt') (lt_irrefl _)
    · exact absurd heq' (ne_of_gt hlt)
  · rcases hba with hlt' | ⟨-, hname'⟩
    · exact absurd heq (ne_of_gt hlt')
    · exact le_antisymm hname hname'

variable {α : Type} {view : α → Ranked} {items items' : List α}

theorem MayFollow.congr (hsame : ∀ a, a ∈ items ↔ a ∈ items') {before : List α} {a : α}
    (h : MayFollow view items before a) : MayFollow view items' before a := by
  obtain ⟨ha, hnew, hbefore⟩ := h
  exact ⟨(hsame a).1 ha, hnew, fun r hr hmem => hbefore r ((hsame r).2 hr) hmem⟩

/-- The item at a place is fixed by those before it. -/
theorem IsGreedy.getElem_eq (hnames : (items.map fun a => (view a).name).Nodup)
    (hsame : ∀ a, a ∈ items ↔ a ∈ items') {ordered ordered' : List α}
    (h : IsGreedy view items ordered) (h' : IsGreedy view items' ordered') {n : Nat}
    (hn : n < ordered.length) (hn' : n < ordered'.length)
    (htake : ordered.take n = ordered'.take n) : ordered[n] = ordered'[n] := by
  have hfollows := h.mayFollow n hn
  have hfollows' := h'.mayFollow n hn'
  -- each of the two may follow the same items, and neither ranks behind the other one
  have hle : (view ordered[n]).le (view ordered'[n]) :=
    h.least n hn _ (htake ▸ hfollows'.congr fun a => (hsame a).symm)
  have hle' : (view ordered'[n]).le (view ordered[n]) :=
    h'.least n hn' _ (htake ▸ hfollows.congr hsame)
  exact List.inj_on_of_nodup_map hnames hfollows.1 ((hsame _).2 hfollows'.1)
    (name_eq_of_le_of_le hle hle')

/-- Items have one greedy arrangement at most, in whatever order they are given. -/
theorem IsGreedy.unique (hnames : (items.map fun a => (view a).name).Nodup)
    (hperm : items.Perm items') {ordered ordered' : List α} (h : IsGreedy view items ordered)
    (h' : IsGreedy view items' ordered') : ordered = ordered' := by
  have hlength : ordered.length = ordered'.length := by
    rw [h.perm.length_eq, h'.perm.length_eq, hperm.length_eq]
  have htake : ∀ n ≤ ordered.length, ordered.take n = ordered'.take n := by
    intro n
    induction n with
    | zero => exact fun _ => rfl
    | succ n ih =>
      intro hn
      have hbefore := ih (by omega)
      rw [List.take_succ_eq_append_getElem (show n < ordered.length by omega),
        List.take_succ_eq_append_getElem (show n < ordered'.length by omega), hbefore,
        h.getElem_eq hnames (fun _ => hperm.mem_iff) h' _ _ hbefore]
  calc ordered = ordered.take ordered.length := List.take_length.symm
    _ = ordered'.take ordered'.length := by rw [htake _ le_rfl, hlength]
    _ = ordered' := List.take_length

theorem Cyclic.mono (hsub : items ⊆ items') (h : Cyclic view items) : Cyclic view items' := by
  obtain ⟨a, ha⟩ := h
  refine ⟨a, Relation.TransGen.mono (fun _ _ hstep => ?_) _ _ ha⟩
  exact ⟨hsub hstep.1, hsub hstep.2.1, hstep.2.2⟩

/-- Ordering does not depend on the order of the input: it gives up both times, or finds the same
order both times. -/
theorem arrange_perm (hnames : (items.map fun a => (view a).name).Nodup)
    (hperm : items.Perm items') :
    (∃ e e', arrange view items = .error e ∧ arrange view items' = .error e') ∨
      ∃ ordered, arrange view items = .ok ordered ∧ arrange view items' = .ok ordered := by
  have hnames' : (items'.map fun a => (view a).name).Nodup := (hperm.map _).nodup_iff.1 hnames
  cases h : arrange view items with
  | error e =>
    -- a cycle is a matter of the items, not of their order
    have hcyclic : Cyclic view items' :=
      ((arrange_error_iff hnames).1 ⟨e, h⟩).mono hperm.subset
    obtain ⟨e', h'⟩ := (arrange_error_iff hnames').2 hcyclic
    exact .inl ⟨e, e', rfl, h'⟩
  | ok ordered =>
    cases h' : arrange view items' with
    | error e' =>
      have hcyclic : Cyclic view items :=
        ((arrange_error_iff hnames').1 ⟨e', h'⟩).mono hperm.symm.subset
      obtain ⟨e, he⟩ := (arrange_error_iff hnames).2 hcyclic
      cases h.symm.trans he
    | ok ordered' =>
      obtain ⟨placed, horder, rfl⟩ := exists_order_of_arrange h
      obtain ⟨placed', horder', rfl⟩ := exists_order_of_arrange h'
      -- of both results each item is the least that may come next, which leaves no choice
      have heq := (isGreedy_of_order hnames horder).unique hnames hperm
        (isGreedy_of_order hnames' horder')
      exact .inr ⟨_, rfl, congrArg _ heq.symm⟩

/-- Three items in two orders, of which the last one in the alphabet goes before the first one. -/
theorem arrange_perm_reversed :
    let items : List Ranked := [⟨"a", 16, []⟩, ⟨"b", 16, []⟩, ⟨"c", 16, ["a", "x", "a"]⟩]
    items.Perm items.reverse ∧
      ∃ ordered, arrange id items = .ok ordered ∧ arrange id items.reverse = .ok ordered ∧
        ordered.map Ranked.name = ["b", "c", "a"] := by
  intro items
  have hperm : items.Perm items.reverse := items.reverse_perm.symm
  have horder : arrange id items =
      .ok [⟨"b", 16, []⟩, ⟨"c", 16, ["a", "x", "a"]⟩, ⟨"a", 16, []⟩] := by
    decide +kernel
  refine ⟨hperm, ?_⟩
  have hnames : (items.map fun a => (id a).name).Nodup := by decide
  obtain ⟨e, e', he, -⟩ | ⟨ordered, hordered, hreversed⟩ := arrange_perm hnames hperm
  · cases horder.symm.trans he
  · obtain rfl := Except.ok.inj (hordered.symm.trans horder)
    exact ⟨_, hordered, hreversed, rfl⟩

end Ranked
end ChrootScan
