import ChrootScan.Proofs.Order.Sweep
import Mathlib.Data.List.Basic

/-!
# The order of named items

Reads what ordering does to indices back in terms of the items themselves. With distinct names,
an item is known by its index, and the constraints on it are those of the items that name it. An
arrangement holds every item once, respects all constraints, and at every place has the least of the
items that may follow those before it.
-/

namespace ChrootScan
namespace Ranked

/-! ## Constraints by name -/

/-- A name that is there leads to the item that has it. -/
theorem target?_eq_some_iff {items : List Ranked} (hnames : (items.map Ranked.name).Nodup)
    {name : String} {i : Nat} :
    target? items name = some i ↔ ∃ h : i < items.length, items[i].name = name := by
  have hfound : ∀ {k : Nat}, target? items name = some k →
      ∃ h : k < items.length, items[k].name = name := by
    intro k hk
    obtain ⟨⟨item, k⟩, hlast, rfl⟩ := Option.map_eq_some_iff.1 hk
    obtain ⟨hmem, hname⟩ := List.mem_filter.1 (List.mem_of_getLast? hlast)
    obtain ⟨_, hlt, hitem⟩ := List.mem_zipIdx hmem
    simp only [Nat.sub_zero, Nat.zero_add] at hitem hlt
    exact ⟨hlt, hitem ▸ eq_of_beq hname⟩
  refine ⟨hfound, fun ⟨hi, hname⟩ => ?_⟩
  cases hk : target? items name with
  | none =>
    have hnil : items.zipIdx.filter (fun x => x.1.name == name) = [] := by
      rw [← List.getLast?_eq_none_iff]
      exact Option.map_eq_none_iff.1 hk
    have hmem : (items[i], i) ∈ items.zipIdx.filter (fun x => x.1.name == name) := by
      rw [List.mem_filter, List.mk_mem_zipIdx_iff_getElem?]
      exact ⟨List.getElem?_eq_getElem hi, beq_iff_eq.2 hname⟩
    rw [hnil] at hmem
    exact absurd hmem List.not_mem_nil
  | some k =>
    -- the last item with the name is the only one
    obtain ⟨hlt, hk'⟩ := hfound hk
    have hki : k < (items.map Ranked.name).length ∧ i < (items.map Ranked.name).length := by
      simpa using ⟨hlt, hi⟩
    obtain ⟨hk₁, hi₁⟩ := hki
    have hsame : (items.map Ranked.name)[k] = (items.map Ranked.name)[i] := by
      rw [List.getElem_map, List.getElem_map, hk', hname]
    exact congrArg some (hnames.getElem_inj_iff.1 hsame)

theorem mem_successors_iff {items : List Ranked} (hnames : (items.map Ranked.name).Nodup)
    {i j : Nat} (hi : i < items.length) (hj : j < items.length) :
    j ∈ successors items i ↔ items[j].name ∈ items[i].before := by
  simp only [successors, List.getElem?_eq_getElem hi, Option.map_some, Option.getD_some,
    List.mem_filterMap, target?_eq_some_iff hnames, hj, exists_true_left]
  exact ⟨fun ⟨_, hmem, heq⟩ => heq ▸ hmem, fun hmem => ⟨_, hmem, rfl⟩⟩

/-! ## Items by their indices -/

section
variable {α : Type} {view : α → Ranked} {items : List α}

/-- The items with the given indices. -/
def pick (items : List α) (indices : List Nat) : List α :=
  indices.filterMap (items[·]?)

/-- Which item stands where. -/
theorem getElem?_pick {indices : List Nat} (h : ∀ i ∈ indices, i < items.length) (k : Nat) :
    (pick items indices)[k]? = indices[k]?.bind (items[·]?) := by
  induction indices generalizing k with
  | nil => simp [pick]
  | cons i rest ih =>
    have hi : i < items.length := h i (List.mem_cons_self ..)
    have hpick : pick items (i :: rest) = items[i] :: pick items rest := by
      rw [pick, List.filterMap_cons_some (List.getElem?_eq_getElem hi), pick]
    rw [hpick]
    cases k with
    | zero => simp [hi]
    | succ k =>
      rw [List.getElem?_cons_succ, List.getElem?_cons_succ]
      exact ih (fun j hj => h j (List.mem_cons_of_mem _ hj)) k

/-- What is picked is the item at the place that is named. -/
theorem getElem_pick {indices : List Nat} (h : ∀ i ∈ indices, i < items.length) {k : Nat}
    (hk : k < (pick items indices).length) :
    ∃ (hk' : k < indices.length) (hi : indices[k] < items.length),
      (pick items indices)[k] = items[indices[k]] := by
  have hat := getElem?_pick h k
  rw [List.getElem?_eq_getElem hk] at hat
  obtain ⟨i, hi, heq⟩ := Option.bind_eq_some_iff.1 hat.symm
  obtain ⟨hk', rfl⟩ := List.getElem?_eq_some_iff.1 hi
  obtain ⟨hlt, heq⟩ := List.getElem?_eq_some_iff.1 heq
  exact ⟨hk', hlt, heq.symm⟩

theorem pick_take {indices : List Nat} (h : ∀ i ∈ indices, i < items.length) (n : Nat) :
    (pick items indices).take n = pick items (indices.take n) := by
  have htake : ∀ i ∈ indices.take n, i < items.length := fun i hi => h i (List.mem_of_mem_take hi)
  refine List.ext_getElem? fun k => ?_
  rw [List.getElem?_take, getElem?_pick h, getElem?_pick htake, List.getElem?_take]
  split
  · rfl
  · rfl

theorem pick_range : pick items (List.range items.length) = items := by
  refine List.ext_getElem? fun k => ?_
  rw [getElem?_pick fun i hi => List.mem_range.1 hi]
  by_cases hk : k < items.length
  · rw [List.getElem?_range hk, Option.bind_some]
  · rw [List.getElem?_eq_none (by simpa using hk), Option.bind_none,
      List.getElem?_eq_none (by omega)]

/-- An item is picked when its index is given. -/
theorem getElem_mem_pick_iff (hnodup : items.Nodup) {indices : List Nat} {j : Nat}
    (hj : j < items.length) : items[j] ∈ pick items indices ↔ j ∈ indices := by
  rw [pick, List.mem_filterMap]
  constructor
  · rintro ⟨i, hi, heq⟩
    obtain ⟨hlt, heq⟩ := List.getElem?_eq_some_iff.1 heq
    rwa [← (hnodup.getElem_inj_iff).1 heq]
  · exact fun hmem => ⟨j, hmem, List.getElem?_eq_getElem hj⟩

theorem nodup_pick (hnodup : items.Nodup) {indices : List Nat} (h : indices.Nodup) :
    (pick items indices).Nodup := by
  refine h.filterMap fun i j a hi hj => ?_
  obtain ⟨hlt, -⟩ := List.getElem?_eq_some_iff.1 hi
  exact (List.getElem?_inj hlt hnodup).1 (hi.trans hj.symm)

/-! ## Arrangements -/

/-- An item may follow those of a list: it is not among them, and all that ask to go before it
are. -/
def MayFollow (view : α → Ranked) (items before : List α) (a : α) : Prop :=
  a ∈ items ∧ a ∉ before ∧ ∀ r ∈ items, (view a).name ∈ (view r).before → r ∈ before

/-- One item stands before another one. -/
def StandsBefore (ordered : List α) (p q : α) : Prop :=
  ∃ i j : Nat, i < j ∧ ordered[i]? = some p ∧ ordered[j]? = some q

/-- Every item is there once, constraints are respected, and each place has the least item that may
follow those before it. -/
structure IsGreedy (view : α → Ranked) (items ordered : List α) : Prop where
  perm : ordered.Perm items
  respects : ∀ p ∈ items, ∀ q ∈ items, (view q).name ∈ (view p).before → StandsBefore ordered p q
  mayFollow : ∀ (i : Nat) (hi : i < ordered.length),
    MayFollow view items (ordered.take i) ordered[i]
  least : ∀ (i : Nat) (hi : i < ordered.length) (a : α),
    MayFollow view items (ordered.take i) a → (view ordered[i]).le (view a)

theorem mem_successors_map_iff (hnames : (items.map fun a => (view a).name).Nodup) {i j : Nat}
    (hi : i < items.length) (hj : j < items.length) :
    j ∈ successors (items.map view) i ↔ (view items[j]).name ∈ (view items[i]).before := by
  rw [mem_successors_iff (by rwa [List.map_map]) (by simpa using hi) (by simpa using hj)]
  simp only [List.getElem_map]

/-- With distinct names, being free is being allowed to follow. -/
theorem mayFollow_pick_iff (hnames : (items.map fun a => (view a).name).Nodup)
    {indices : List Nat} {j : Nat} (hj : j < items.length) :
    MayFollow view items (pick items indices) items[j] ↔ Free (items.map view) indices j := by
  have hnodup : items.Nodup := List.Nodup.of_map _ hnames
  rw [MayFollow, Free, List.length_map, getElem_mem_pick_iff hnodup hj]
  constructor
  · rintro ⟨_, hnew, hbefore⟩
    refine ⟨hj, hnew, fun k hk hmem => ?_⟩
    rw [← getElem_mem_pick_iff hnodup hk]
    exact hbefore _ (List.getElem_mem hk) ((mem_successors_map_iff hnames hk hj).1 hmem)
  · rintro ⟨_, hnew, hbefore⟩
    refine ⟨List.getElem_mem hj, hnew, fun r hr hmem => ?_⟩
    obtain ⟨k, hk, rfl⟩ := List.getElem_of_mem hr
    rw [getElem_mem_pick_iff hnodup hk]
    exact hbefore k hk ((mem_successors_map_iff hnames hk hj).2 hmem)

/-- The order that is found is greedy and of full length. -/
theorem greedy_of_order {items : List Ranked} {placed : List Nat} (h : order items = .ok placed) :
    Greedy items placed ∧ placed.length = items.length := by
  have hinv := Sweep.inv_run_start items items.length
  simp only [order] at h
  split at h
  · next hlen =>
    cases h
    exact ⟨hinv.greedy, hlen⟩
  · cases h

/-- What asks to go before an item that is placed is placed before it. -/
theorem standsBefore_pick (hnames : (items.map fun a => (view a).name).Nodup) {placed : List Nat}
    (h : Greedy (items.map view) placed) {p q : α} (hp : p ∈ items) (hq : q ∈ pick items placed)
    (hbefore : (view q).name ∈ (view p).before) : StandsBefore (pick items placed) p q := by
  have hlt : ∀ i ∈ placed, i < items.length := by simpa using h.lt_length
  obtain ⟨kp, hkp, rfl⟩ := List.getElem_of_mem hp
  obtain ⟨j, hj, rfl⟩ := List.getElem_of_mem hq
  obtain ⟨hj', hkq, heq⟩ := getElem_pick hlt hj
  rw [heq] at hbefore
  -- the item at `j` came when all that go before it were placed
  have hpred : kp ∈ placed.take j :=
    (h.next_getElem j hj').1.2.2 kp (by simpa using hkp)
      ((mem_successors_map_iff hnames hkp hkq).2 hbefore)
  obtain ⟨i, hi, hip⟩ := List.getElem_of_mem hpred
  rw [List.length_take] at hi
  rw [List.getElem_take] at hip
  refine ⟨i, j, by omega, ?_, List.getElem?_eq_getElem hj⟩
  rw [getElem?_pick hlt, List.getElem?_eq_some_iff.2 ⟨by omega, hip⟩, Option.bind_some,
    List.getElem?_eq_getElem hkp]

/-- A greedy order of all indices is a greedy arrangement of the items. -/
theorem isGreedy_pick (hnames : (items.map fun a => (view a).name).Nodup) {placed : List Nat}
    (h : Greedy (items.map view) placed) (hlen : placed.length = items.length) :
    IsGreedy view items (pick items placed) := by
  have hlt : ∀ i ∈ placed, i < items.length := by simpa using h.lt_length
  have hperm : (pick items placed).Perm items := by
    have hrange : placed.Perm (List.range items.length) := by
      simpa using h.perm_range (by simpa using hlen)
    have hpick := hrange.filterMap (items[·]?)
    rwa [← pick, ← pick, pick_range] at hpick
  refine ⟨hperm, fun p hp q hq hbefore => ?_, fun i hi => ?_, fun i hi a ha => ?_⟩
  · exact standsBefore_pick hnames h hp (hperm.mem_iff.2 hq) hbefore
  · obtain ⟨hi', hk, heq⟩ := getElem_pick hlt hi
    rw [pick_take hlt, heq, mayFollow_pick_iff hnames]
    exact (h.next_getElem i hi').1
  · obtain ⟨hi', hk, heq⟩ := getElem_pick hlt hi
    obtain ⟨k, hk', rfl⟩ := List.getElem_of_mem ha.1
    rw [pick_take hlt, mayFollow_pick_iff hnames hk'] at ha
    have hle := le_of_precedes (by simpa using hk) (by simpa using hk')
      ((h.next_getElem i hi').2 k ha)
    rw [heq]
    simpa only [List.getElem_map] using hle

/-- The order that is found is one of the items. -/
theorem isGreedy_of_order (hnames : (items.map fun a => (view a).name).Nodup) {placed : List Nat}
    (h : order (items.map view) = .ok placed) : IsGreedy view items (pick items placed) := by
  obtain ⟨hgreedy, hlen⟩ := greedy_of_order h
  exact isGreedy_pick hnames hgreedy (by simpa using hlen)

/-- An arrangement picks the items by an order of their places. -/
theorem exists_order_of_arrange {ordered : List α} (h : arrange view items = .ok ordered) :
    ∃ placed, order (items.map view) = .ok placed ∧ pick items placed = ordered := by
  rw [arrange] at h
  cases horder : order (items.map view) with
  | error e =>
    rw [horder] at h
    cases h
  | ok placed =>
    rw [horder] at h
    exact ⟨placed, rfl, Except.ok.inj h⟩

theorem perm_of_arrange (hnames : (items.map fun a => (view a).name).Nodup) {ordered : List α}
    (h : arrange view items = .ok ordered) : ordered.Perm items := by
  obtain ⟨placed, horder, rfl⟩ := exists_order_of_arrange h
  exact (isGreedy_of_order hnames horder).perm

/-- An arrangement that is found is greedy: whatever the priorities and constraints, it is a
permutation that respects every constraint on a name that is there, and each place has the least
item, by priority and name, of those that nothing left holds back. -/
theorem arrange_isGreedy (hnames : (items.map fun a => (view a).name).Nodup) {ordered : List α}
    (h : arrange view items = .ok ordered) : IsGreedy view items ordered := by
  unfold arrange at h
  cases hplaced : order (items.map view) with
  | error e =>
    rw [hplaced] at h
    cases h
  | ok placed =>
    rw [hplaced] at h
    cases h
    obtain ⟨hgreedy, hlen⟩ := greedy_of_order hplaced
    exact isGreedy_pick hnames hgreedy (by simpa using hlen)

end

/-- Three items, the first of which names the third one twice and another one that is not there. -/
theorem arrange_isGreedy_repeated :
    IsGreedy id [⟨"b", 16, ["c", "x", "c"]⟩, ⟨"a", 16, []⟩, ⟨"c", 1, ["a"]⟩]
      [⟨"b", 16, ["c", "x", "c"]⟩, ⟨"c", 1, ["a"]⟩, ⟨"a", 16, []⟩] :=
  arrange_isGreedy (by decide) (by decide +kernel)

end Ranked
end ChrootScan
