import ChrootScan.Proofs.Order.Arrangement
import Mathlib.Data.Fintype.Order
import Mathlib.Logic.Relation

/-!
# Constraints that go round in a circle

Ordering gives up in one case only: some item would have to go before itself, by way of others. When
nothing is free any more, each item that is left is held back by another one that is left, and going
from one to the next ends in a circle. So what is left are the items on circles and those that a
circle leads to, and the error names them.
-/

namespace ChrootScan
namespace Ranked

/-! ## Sweeps that stop -/

namespace Sweep

variable {items : List Ranked}

theorem run_of_ready_nil {s : Sweep} (h : s.ready = []) (n : Nat) : run items n s = s := by
  induction n with
  | zero => rfl
  | succ n ih => rw [run, step_nil h, ih]

/-- As long as items are ready, every step has placed one. -/
theorem length_placed_run {n : Nat} {s : Sweep} (h : (run items n s).ready ≠ []) :
    (run items n s).placed.length = s.placed.length + n := by
  induction n generalizing s with
  | zero => rfl
  | succ n ih =>
    cases hready : s.ready with
    | nil =>
      rw [run_of_ready_nil hready] at h
      exact absurd hready h
    | cons i rest =>
      have hplaced : (step items s).placed.length = s.placed.length + 1 := by
        rw [placed_step_cons hready, List.length_append, List.length_singleton]
      rw [run, ih h, hplaced]
      omega

/-- Steps that do not all place an item have run out of items. -/
theorem ready_run_eq_nil {n : Nat} {s : Sweep}
    (h : (run items n s).placed.length < s.placed.length + n) : (run items n s).ready = [] := by
  by_contra hready
  exact absurd (length_placed_run hready) (ne_of_lt h)

/-- After as many steps as there are items, nothing is ready any more. -/
theorem ready_run_start {n : Nat} (hn : items.length ≤ n) :
    (run items n (start items)).ready = [] := by
  have hinv : Inv items (run items n (start items)) := inv_run_start items n
  have hle := hinv.greedy.length_le
  by_cases hlt : (run items n (start items)).placed.length < n
  · apply ready_run_eq_nil
    simpa [start] using hlt
  · -- every step has placed an item, so all of them are placed
    have hlen : (run items n (start items)).placed.length = items.length := by omega
    refine List.eq_nil_iff_forall_not_mem.2 fun i hi => ?_
    obtain ⟨hilt, hnew, -⟩ := (hinv.mem_ready i).1 hi
    exact hnew ((hinv.greedy.perm_range hlen).mem_iff.2 (List.mem_range.2 hilt))

/-- The state in which nothing is ready any more. -/
def last (items : List Ranked) : Sweep :=
  run items items.length (start items)

theorem greedy_last (items : List Ranked) : Greedy items (last items).placed :=
  (inv_run_start items items.length).greedy

/-- In the end, what is not placed is held back by something that is not placed either. -/
theorem exists_held_of_not_placed {i : Nat} (hi : i < items.length)
    (hleft : i ∉ (last items).placed) :
    ∃ j < items.length, i ∈ successors items j ∧ j ∉ (last items).placed := by
  have hfree : ¬ Free items (last items).placed i := by
    have hready : (last items).ready = [] := ready_run_start le_rfl
    have hinv : Inv items (last items) := inv_run_start items items.length
    rw [← hinv.mem_ready, hready]
    exact List.not_mem_nil
  by_contra hnone
  push Not at hnone
  exact hfree ⟨hi, hleft, hnone⟩

/-- In the end, the items with a degree are those that are not placed. -/
theorem degree_last_pos_iff {i : Nat} (hi : i < items.length) :
    0 < (last items).degrees[i]?.getD 0 ↔ i ∉ (last items).placed := by
  have hdegree : (last items).degrees[i]? = some (holding items (last items).placed i + 0) :=
    (inv_run_start items items.length).tracks.degree i hi
  rw [hdegree, Option.getD_some, Nat.add_zero, Nat.pos_iff_ne_zero, ne_eq, holding_eq_zero_iff]
  constructor
  · exact fun hheld hplaced => hheld ((greedy_last items).closed i hplaced)
  · intro hleft hfree
    obtain ⟨j, hj, hmem, hjleft⟩ := exists_held_of_not_placed hi hleft
    exact hjleft (hfree j hj hmem)

end Sweep

variable {α : Type} {view : α → Ranked} {items : List α}

/-! ## What is left out -/

/-- The items whose indices are not given, in their order. -/
def leftOut (items : List α) (indices : List Nat) : List α :=
  (items.zipIdx.filter fun (_, i) => i ∉ indices).map (·.1)

theorem leftOut_sublist (items : List α) (indices : List Nat) :
    (leftOut items indices).Sublist items := by
  have hsub := (List.filter_sublist (l := items.zipIdx) (p := fun (_, i) => i ∉ indices)).map (·.1)
  rwa [List.zipIdx_map_fst] at hsub

theorem mem_leftOut_iff {indices : List Nat} {a : α} :
    a ∈ leftOut items indices ↔ ∃ (i : Nat) (h : i < items.length), items[i] = a ∧ i ∉ indices := by
  simp only [leftOut, List.mem_map, List.mem_filter, Prod.exists, exists_eq_right,
    List.mk_mem_zipIdx_iff_getElem?, decide_eq_true_eq, List.getElem?_eq_some_iff, exists_and_right]

/-- The names of the items that are held back for ever are those of the items left out. -/
theorem stuck_last (items : List α) :
    Sweep.stuck (items.map view) (Sweep.last (items.map view)) =
      (leftOut items (Sweep.last (items.map view)).placed).map fun a => (view a).name := by
  have hfilter : items.zipIdx.filter
        (fun (_, i) => decide (0 < (Sweep.last (items.map view)).degrees[i]?.getD 0)) =
      items.zipIdx.filter fun (_, i) => i ∉ (Sweep.last (items.map view)).placed := by
    refine List.filter_congr fun ⟨a, i⟩ hmem => ?_
    have hi : i < (items.map view).length := by
      have hitem := List.mk_mem_zipIdx_iff_getElem?.1 hmem
      rw [List.length_map]
      exact (List.getElem?_eq_some_iff.1 hitem).1
    exact decide_eq_decide.2 (Sweep.degree_last_pos_iff hi)
  rw [leftOut, ← hfilter, Sweep.stuck, List.zipIdx_map, List.filter_map, List.map_map, List.map_map]
  rfl

/-- An error of ordering names all items that are left out. -/
theorem arrange_of_short (h : (Sweep.last (items.map view)).placed.length ≠ items.length) :
    arrange view items = .error (.usage ("cyclic ordering constraints between plugins: "
      ++ Text.join ", "
        ((leftOut items (Sweep.last (items.map view)).placed).map fun a => (view a).name))) := by
  rw [arrange, order, ← Sweep.last, ← stuck_last]
  simp only [List.length_map, if_neg h, Except.map]

theorem arrange_eq_error_iff {e : ScanError} :
    arrange view items = .error e ↔ order (items.map view) = .error e := by
  rw [arrange]
  cases order (items.map view) with
  | error e' => simp [Except.map]
  | ok placed => simp [Except.map]

/-- If ordering gives up, fewer items are placed than there are. -/
theorem short_of_arrange {e : ScanError} (h : arrange view items = .error e) :
    (Sweep.last (items.map view)).placed.length ≠ items.length := by
  intro hlen
  rw [arrange_eq_error_iff, order, ← Sweep.last, List.length_map] at h
  simp only [if_pos hlen] at h
  cases h

/-! ## Circles -/

/-- Among finitely many things, going on to one that comes before leads back to where one was. -/
theorem exists_circle {β : Type} [Finite β] [Nonempty β] {R : β → β → Prop}
    (hheld : ∀ b, ∃ a, R a b) : ∃ b, Relation.TransGen R b b := by
  by_contra hnone
  push Not at hnone
  have : Std.Irrefl (Relation.TransGen R) := ⟨hnone⟩
  obtain ⟨b, -, hfirst⟩ :=
    (Finite.wellFounded_of_trans_of_irrefl (Relation.TransGen R)).has_min Set.univ
      Set.univ_nonempty
  obtain ⟨a, hab⟩ := hheld b
  exact hfirst a (Set.mem_univ a) (.single hab)

/-- One item asks to go before another one. -/
def GoesBefore (view : α → Ranked) (items : List α) (a b : α) : Prop :=
  a ∈ items ∧ b ∈ items ∧ (view b).name ∈ (view a).before

/-- Some item would have to go before itself. -/
def Cyclic (view : α → Ranked) (items : List α) : Prop :=
  ∃ a, Relation.TransGen (GoesBefore view items) a a

/-- An item lies on a circle, or a circle leads to it. -/
def HeldForEver (view : α → Ranked) (items : List α) (a : α) : Prop :=
  ∃ c, Relation.TransGen (GoesBefore view items) c c ∧
    Relation.ReflTransGen (GoesBefore view items) c a

/-- If each of some items is held back by one of them, each of them is held back for ever. -/
theorem heldForEver_of_held {left : List α}
    (hheld : ∀ b ∈ left, ∃ a ∈ left, GoesBefore view items a b) {b : α} (hb : b ∈ left) :
    HeldForEver view items b := by
  -- the items to look at are those from which `b` can be reached
  let β : Type := { a // a ∈ left ∧ Relation.ReflTransGen (GoesBefore view items) a b }
  have hfinite : Finite β := (left.finite_toSet.subset fun a ha => ha.1).to_subtype
  have hnonempty : Nonempty β := ⟨⟨b, hb, .refl⟩⟩
  obtain ⟨c, hcircle⟩ : ∃ c : β, Relation.TransGen (fun a a' : β =>
      GoesBefore view items a.1 a'.1) c c := by
    refine exists_circle fun ⟨a, ha, hreach⟩ => ?_
    obtain ⟨a', ha', hbefore⟩ := hheld a ha
    exact ⟨⟨a', ha', .head hbefore hreach⟩, hbefore⟩
  exact ⟨c.1, Relation.TransGen.lift Subtype.val (fun _ _ h => h) _ _ hcircle, c.2.2⟩

theorem StandsBefore.mem {ordered : List α} {p q : α} (h : StandsBefore ordered p q) :
    p ∈ ordered := by
  obtain ⟨i, -, -, hi, -⟩ := h
  exact List.mem_of_getElem? hi

theorem StandsBefore.trans {ordered : List α} (hnodup : ordered.Nodup) {p q r : α}
    (h : StandsBefore ordered p q) (h' : StandsBefore ordered q r) : StandsBefore ordered p r := by
  obtain ⟨i, j, hij, hi, hj⟩ := h
  obtain ⟨j', k, hjk, hj', hk⟩ := h'
  obtain ⟨hlt, -⟩ := List.getElem?_eq_some_iff.1 hj
  have hsame : j = j' := (List.getElem?_inj hlt hnodup).1 (hj.trans hj'.symm)
  exact ⟨i, k, by omega, hi, hk⟩

theorem StandsBefore.irrefl {ordered : List α} (hnodup : ordered.Nodup) (p : α) :
    ¬ StandsBefore ordered p p := by
  rintro ⟨i, j, hij, hi, hj⟩
  obtain ⟨hlt, -⟩ := List.getElem?_eq_some_iff.1 hi
  have hsame : i = j := (List.getElem?_inj hlt hnodup).1 (hi.trans hj.symm)
  omega

/-- Where all that has to go before an item stands before it, no item is held back for ever. -/
theorem not_heldForEver_of_mem {ordered : List α} (hnodup : ordered.Nodup)
    (hbefore : ∀ {a b}, GoesBefore view items a b → b ∈ ordered → StandsBefore ordered a b)
    {b : α} (hb : b ∈ ordered) : ¬ HeldForEver view items b := by
  rintro ⟨c, hcircle, hreach⟩
  have hback {a : α} (ha : Relation.ReflTransGen (GoesBefore view items) a b) : a ∈ ordered := by
    induction ha using Relation.ReflTransGen.head_induction_on with
    | refl => exact hb
    | head hstep _ ih => exact (hbefore hstep ih).mem
  have hplace {a b : α} (hab : Relation.TransGen (GoesBefore view items) a b) (hb : b ∈ ordered) :
      StandsBefore ordered a b := by
    induction hab using Relation.TransGen.head_induction_on with
    | single hstep => exact hbefore hstep hb
    | head hstep _ ih => exact (hbefore hstep ih.mem).trans hnodup ih
  exact StandsBefore.irrefl hnodup c (hplace hcircle (hback hreach))

/-! ## Ordering that gives up -/

/-- A list of indices that is too short leaves one out. -/
theorem exists_not_mem_of_length_lt {n : Nat} {placed : List Nat} (h : placed.length < n) :
    ∃ i < n, i ∉ placed := by
  by_contra hall
  push Not at hall
  have hsub : (List.range n).Subperm placed :=
    List.nodup_range.subperm fun i hi => hall i (List.mem_range.1 hi)
  have hle := hsub.length_le
  rw [List.length_range] at hle
  omega

/-- What is left out in the end is held back by something that is left out. -/
theorem exists_goesBefore_of_leftOut (hnames : (items.map fun a => (view a).name).Nodup) {b : α}
    (hb : b ∈ leftOut items (Sweep.last (items.map view)).placed) :
    ∃ a ∈ leftOut items (Sweep.last (items.map view)).placed, GoesBefore view items a b := by
  obtain ⟨i, hi, rfl, hleft⟩ := mem_leftOut_iff.1 hb
  obtain ⟨j, hj, hmem, hjleft⟩ := Sweep.exists_held_of_not_placed (by simpa using hi) hleft
  rw [List.length_map] at hj
  exact ⟨items[j], mem_leftOut_iff.2 ⟨j, hj, rfl, hjleft⟩, List.getElem_mem hj, List.getElem_mem hi,
    (mem_successors_map_iff hnames hj hi).1 hmem⟩

/-- What is left out in the end are the items that are held back for ever. -/
theorem mem_leftOut_last_iff (hnames : (items.map fun a => (view a).name).Nodup) {a : α}
    (ha : a ∈ items) :
    a ∈ leftOut items (Sweep.last (items.map view)).placed ↔ HeldForEver view items a := by
  refine ⟨heldForEver_of_held fun b hb => exists_goesBefore_of_leftOut hnames hb, fun hheld => ?_⟩
  by_contra hin
  have hnodup : items.Nodup := List.Nodup.of_map _ hnames
  have hgreedy := Sweep.greedy_last (items.map view)
  obtain ⟨i, hi, rfl⟩ := List.getElem_of_mem ha
  have hplaced : i ∈ (Sweep.last (items.map view)).placed := by
    by_contra hleft
    exact hin (mem_leftOut_iff.2 ⟨i, hi, rfl, hleft⟩)
  refine not_heldForEver_of_mem (nodup_pick hnodup hgreedy.nodup) (fun hab hb => ?_)
    ((getElem_mem_pick_iff hnodup hi).2 hplaced) hheld
  exact standsBefore_pick hnames hgreedy hab.1 hb hab.2.2

/-- Some item is held back for ever exactly if not all are placed in the end. -/
theorem short_iff_cyclic (hnames : (items.map fun a => (view a).name).Nodup) :
    (Sweep.last (items.map view)).placed.length ≠ items.length ↔ Cyclic view items := by
  have hgreedy := Sweep.greedy_last (items.map view)
  have hle := hgreedy.length_le
  rw [List.length_map] at hle
  constructor
  · intro hne
    obtain ⟨i, hi, hleft⟩ := exists_not_mem_of_length_lt (lt_of_le_of_ne hle hne)
    obtain ⟨c, hcircle, -⟩ := (mem_leftOut_last_iff hnames (List.getElem_mem hi)).1
      (mem_leftOut_iff.2 ⟨i, hi, rfl, hleft⟩)
    exact ⟨c, hcircle⟩
  · rintro ⟨c, hcircle⟩ hlen
    have hc : c ∈ items := by
      obtain ⟨b, -, hb⟩ := Relation.TransGen.tail'_iff.1 hcircle
      exact hb.2.1
    obtain ⟨i, hi, -, hleft⟩ :=
      mem_leftOut_iff.1 ((mem_leftOut_last_iff hnames hc).2 ⟨c, hcircle, .refl⟩)
    have hperm := hgreedy.perm_range (by simpa using hlen)
    exact hleft (hperm.mem_iff.2 (by simpa using hi))

/-- There is an order exactly if the constraints do not go round in a circle. -/
theorem arrange_error_iff (hnames : (items.map fun a => (view a).name).Nodup) :
    (∃ e, arrange view items = .error e) ↔ Cyclic view items := by
  rw [← short_iff_cyclic hnames]
  exact ⟨fun ⟨_, h⟩ => short_of_arrange h, fun h => ⟨_, arrange_of_short h⟩⟩

/-- Ordering gives up exactly if the constraints go round in a circle. The error is then one of
usage and names, in the order of the input, the items that lie on a circle or that one leads to.
Either way there are no more steps than items, behind which nothing is ready. -/
theorem arrange_fails_iff_cyclic (hnames : (items.map fun a => (view a).name).Nodup) :
    ((∃ e, arrange view items = .error e) ↔ Cyclic view items) ∧
      (∀ e, arrange view items = .error e → ∃ stuck : List α,
        stuck.Sublist items ∧ (∀ a ∈ items, a ∈ stuck ↔ HeldForEver view items a) ∧
        e = .usage ("cyclic ordering constraints between plugins: "
          ++ Text.join ", " (stuck.map fun a => (view a).name))) ∧
      ∀ n, items.length ≤ n →
        (Sweep.run (items.map view) n (Sweep.start (items.map view))).ready = [] := by
  refine ⟨arrange_error_iff hnames, fun e he => ?_, fun n hn => ?_⟩
  · refine ⟨_, leftOut_sublist items _, fun a ha => mem_leftOut_last_iff hnames ha, ?_⟩
    have herror := arrange_of_short (short_of_arrange he)
    exact Except.error.inj (he.symm.trans herror)
  · exact Sweep.ready_run_start (by simpa using hn)

/-- Two items that go before each other, the second of which also holds back a third one; one that
goes before them is not named. -/
theorem arrange_fails_iff_cyclic_pair :
    let items : List Ranked :=
      [⟨"c", 1, []⟩, ⟨"b", 16, ["a", "c", "c"]⟩, ⟨"d", 16, ["a", "x"]⟩, ⟨"a", 16, ["b"]⟩]
    arrange id items = .error (.usage "cyclic ordering constraints between plugins: c, b, a") ∧
      Cyclic id items ∧
      ∃ stuck : List Ranked, stuck.Sublist items ∧
        (∀ a ∈ items, a ∈ stuck ↔ HeldForEver id items a) ∧
        Text.join ", " (stuck.map Ranked.name) = "c, b, a" := by
  intro items
  have herror : arrange id items =
      .error (.usage "cyclic ordering constraints between plugins: c, b, a") := by
    decide +kernel
  have hnames : (items.map fun a => (id a).name).Nodup := by decide
  obtain ⟨hiff, hnamed, -⟩ := arrange_fails_iff_cyclic hnames
  obtain ⟨stuck, hsub, hheld, hmessage⟩ := hnamed _ herror
  refine ⟨herror, hiff.1 ⟨_, herror⟩, stuck, hsub, hheld, ?_⟩
  have htexts : "cyclic ordering constraints between plugins: " ++ "c, b, a" =
      "cyclic ordering constraints between plugins: " ++
        Text.join ", " (stuck.map fun a => (id a).name) :=
    ScanError.usage.inj hmessage
  exact ((String.append_right_inj _).1 htexts).symm

end Ranked
end ChrootScan
