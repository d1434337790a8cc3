import ChrootScan.Proofs.Order.Cycles

/-!
# Degrees, counted by name

A state of ordering is told in terms of the items. With distinct names, the degree of an item is the
number of times that the items not yet placed name it, repetitions counted (`holding_eq_count`). So
while the constraints of an item are dropped, each of them is still counted
(`Tracks.degree_pos`), and no degree is lowered that is zero. Every turn places one item more, and
none twice, so there are no more turns than items (`accounts_run_start`).
-/

namespace ChrootScan
namespace Ranked

variable {items : List Ranked}

/-! ## Constraints counted by name -/

/-- An item is held back by another one as often as that one names it. -/
theorem count_successors (hnames : (items.map Ranked.name).Nodup) {i j : Nat}
    (hi : i < items.length) (hj : j < items.length) :
    (successors items i).count j = items[i].before.count items[j].name := by
  simp only [successors, List.getElem?_eq_getElem hi, Option.map_some, Option.getD_some]
  rw [List.count_filterMap, List.count]
  refine List.countP_congr fun name _ => ?_
  rw [beq_iff_eq, target?_eq_some_iff hnames, beq_iff_eq]
  constructor
  · rintro ⟨_, hname⟩
    exact hname.symm
  · intro hname
    exact ⟨hj, hname.symm⟩

/-- The constraints that hold an item back are the mentions of its name by the items left. -/
theorem holding_eq_count (hnames : (items.map Ranked.name).Nodup) (placed : List Nat) {j : Nat}
    (hj : j < items.length) :
    holding items placed j =
      ((leftOut items placed).flatMap Ranked.before).count items[j].name := by
  have hrange : List.range items.length = items.zipIdx.map Prod.snd := by
    rw [List.zipIdx_map_snd, List.range_eq_range']
  -- both sides are sums over the items left, with their indices
  rw [holding, leftOut, hrange, List.filter_map, List.flatMap_map, List.flatMap_map,
    List.count_flatMap, List.count_flatMap]
  refine congrArg List.sum (List.map_congr_left fun entry hmem => ?_)
  obtain ⟨item, i⟩ := entry
  obtain ⟨hi, hitem⟩ := List.getElem?_eq_some_iff.1
    (List.mk_mem_zipIdx_iff_getElem?.1 (List.mem_of_mem_filter hmem))
  rw [Function.comp_apply, Function.comp_apply, count_successors hnames hi hj, hitem]

namespace Sweep

/-! ## A turn -/

/-- What is known of a state whenever the next item is about to be placed. -/
structure Accounts (items : List Ranked) (s : Sweep) : Prop where
  /-- The degree of an item is the number of times that the items left name it. -/
  degree : ∀ (j : Nat) (hj : j < items.length), s.degrees[j]? =
    some (((leftOut items s.placed).flatMap Ranked.before).count items[j].name)
  /-- The items that are ready are those left that have no degree. -/
  mem_ready : ∀ j, j ∈ s.ready ↔ j < items.length ∧ j ∉ s.placed ∧ s.degrees[j]? = some 0
  ready_nodup : s.ready.Nodup
  placed_nodup : s.placed.Nodup
  placed_lt : ∀ j ∈ s.placed, j < items.length
  /-- However many constraints of the next item are dropped already, a further one lowers a degree
  that is not zero. -/
  degree_pos : ∀ {i : Nat} {rest : List Nat}, s.ready = i :: rest →
    ∀ {dropped : List Nat} {j : Nat} {owed : List Nat}, successors items i = dropped ++ j :: owed →
      ∃ d, (dropped.foldl (release items) (s.place i rest)).degrees[j]? = some (d + 1)

/-- A constraint that is owed is counted in the degree. -/
theorem Tracks.degree_pos {s : Sweep} {j : Nat} {owed : List Nat} (h : Tracks items (j :: owed) s)
    (hj : j < items.length) : ∃ d, s.degrees[j]? = some (d + 1) := by
  have hdegree := h.degree j hj
  rw [List.count_cons_self, ← Nat.add_assoc] at hdegree
  exact ⟨_, hdegree⟩

/-- Behind any number of rounds the degrees count the constraints that are left. -/
theorem Inv.accounts (hnames : (items.map Ranked.name).Nodup) {s : Sweep} (h : Inv items s) :
    Accounts items s := by
  have hdegree : ∀ j < items.length, s.degrees[j]? = some (holding items s.placed j) :=
    h.tracks.degree
  refine ⟨fun j hj => ?_, fun j => ?_, h.tracks.nodup, h.greedy.nodup, h.greedy.lt_length, ?_⟩
  · rw [hdegree j hj, holding_eq_count hnames _ hj]
  · rw [h.tracks.mem_ready, List.count_nil, Nat.add_zero]
    refine and_congr_right fun hj => and_congr_right fun _ => ?_
    rw [hdegree j hj, Option.some_inj]
  · intro i rest hready dropped j owed howed
    have hj : j ∈ successors items i := by simp [howed]
    exact (h.tracks_within hready howed).degree_pos (lt_length_of_mem_successors hj)

/-! ## All turns -/

/-- Whatever the constraints, repeated ones and those of an item on itself among them: in every turn
the degrees are the numbers of times that the items left name an item, the ready ones are those left
that nobody left names, and no degree is lowered that is zero. A turn in which an item is ready
comes after as many items placed as there were turns, which are fewer than all. -/
theorem accounts_run_start (hnames : (items.map Ranked.name).Nodup) (n : Nat) :
    Accounts items (run items n (start items)) ∧
      ((run items n (start items)).ready ≠ [] →
        (run items n (start items)).placed.length = n ∧ n < items.length) := by
  refine ⟨(inv_run_start items n).accounts hnames, fun hready => ⟨?_, ?_⟩⟩
  · have hplaced := length_placed_run hready
    rwa [start, List.length_nil, Nat.zero_add] at hplaced
  · by_contra hall
    exact hready (ready_run_start (not_lt.1 hall))

/-- The second of four turns: the first item named the second one twice, which the third one and the
last one name as well, and the third one names itself. -/
theorem accounts_run_start_repeated :
    let items : List Ranked :=
      [⟨"b", 16, ["a", "x", "a"]⟩, ⟨"a", 1, []⟩, ⟨"c", 2, ["c", "a"]⟩, ⟨"d", 20, ["a"]⟩]
    let s := run items 1 (start items)
    s.placed = [0] ∧ s.ready = [3] ∧ s.degrees = [0, 2, 1, 0] ∧ Accounts items s ∧
      1 < items.length := by
  intro items s
  have hnames : (items.map Ranked.name).Nodup := by decide
  have hready : s.ready = [3] := by decide +kernel
  obtain ⟨haccounts, hturns⟩ := accounts_run_start hnames 1
  exact ⟨by decide +kernel, hready, by decide +kernel, haccounts,
    (hturns (by rw [hready]; exact List.cons_ne_nil _ _)).2⟩

end Sweep

end Ranked
end ChrootScan
