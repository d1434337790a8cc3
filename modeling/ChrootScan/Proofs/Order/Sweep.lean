import ChrootScan.Analyzer.Order
import Mathlib.Data.List.Nodup
import Mathlib.Data.List.Range
import Mathlib.Data.String.Basic
import Mathlib.Tactic

/-!
# What one step of ordering keeps

A state of ordering is told by the list of items placed so far: the degree of an item is the number
of constraints on it by items not yet placed (`holding`), and the ready ones are those that are not
placed and that nothing holds back. `Tracks` says this of a state in which some constraints of the
item placed last are still to be dropped, and `Inv` of a state between two steps, where the items
placed moreover came `Greedy`, each the least of those free when its turn came.
-/

namespace ChrootScan
namespace Ranked

variable {items : List Ranked}

/-! ## The rank of an item -/

/-- The rank of one item is at most that of another one, by priority and name. -/
def le (a b : Ranked) : Prop :=
  a.priority < b.priority ∨ (a.priority = b.priority ∧ a.name ≤ b.name)

/-- What `precedes` compares of an item. -/
def rank (items : List Ranked) (i : Nat) : Nat × String :=
  (items[i]?.map fun item => (item.priority, item.name)).getD (0, "")

/-- Items are compared by priority, by name, and where they are in the list. -/
theorem precedes_iff (i j : Nat) :
    precedes items i j = true ↔
      (rank items i).1 < (rank items j).1 ∨ ((rank items i).1 = (rank items j).1 ∧
        ((rank items i).2 < (rank items j).2 ∨ ((rank items i).2 = (rank items j).2 ∧ i ≤ j))) := by
  simp only [precedes, rank, Bool.or_eq_true, Bool.and_eq_true, decide_eq_true_eq, beq_iff_eq]

theorem precedes_refl (i : Nat) : precedes items i i = true := by
  rw [precedes_iff]
  exact .inr ⟨rfl, .inr ⟨rfl, le_refl i⟩⟩

/-- Of two items one precedes the other. -/
theorem precedes_total (i j : Nat) : precedes items i j = true ∨ precedes items j i = true := by
  rw [precedes_iff, precedes_iff]
  rcases lt_trichotomy (rank items i).1 (rank items j).1 with h | h | h
  · exact .inl (.inl h)
  · rcases lt_trichotomy (rank items i).2 (rank items j).2 with h' | h' | h'
    · exact .inl (.inr ⟨h, .inl h'⟩)
    · rcases Nat.le_total i j with hij | hij
      · exact .inl (.inr ⟨h, .inr ⟨h', hij⟩⟩)
      · exact .inr (.inr ⟨h.symm, .inr ⟨h'.symm, hij⟩⟩)
    · exact .inr (.inr ⟨h.symm, .inl h'⟩)
  · exact .inr (.inl h)

/-- What precedes an item precedes all that it precedes. -/
theorem precedes_trans {i j k : Nat} (hij : precedes items i j = true)
    (hjk : precedes items j k = true) : precedes items i k = true := by
  rw [precedes_iff] at hij hjk ⊢
  rcases hij with h | ⟨h, h' | ⟨h', hle⟩⟩
  · rcases hjk with g | ⟨g, _⟩
    · exact .inl (h.trans g)
    · exact .inl (g ▸ h)
  · rcases hjk with g | ⟨g, g' | ⟨g', _⟩⟩
    · exact .inl (h ▸ g)
    · exact .inr ⟨h.trans g, .inl (h'.trans g')⟩
    · exact .inr ⟨h.trans g, .inl (g' ▸ h')⟩
  · rcases hjk with g | ⟨g, g' | ⟨g', gle⟩⟩
    · exact .inl (h ▸ g)
    · exact .inr ⟨h.trans g, .inl (h' ▸ g')⟩
    · exact .inr ⟨h.trans g, .inr ⟨h'.trans g', hle.trans gle⟩⟩

/-- Items in the order of `precedes` are in the order of their ranks. -/
theorem le_of_precedes {i j : Nat} (hi : i < items.length) (hj : j < items.length)
    (h : precedes items i j = true) : le items[i] items[j] := by
  rw [precedes_iff] at h
  simp only [rank, List.getElem?_eq_getElem hi, List.getElem?_eq_getElem hj, Option.map_some,
    Option.getD_some] at h
  rcases h with h | ⟨h, h' | ⟨h', _⟩⟩
  · exact .inl h
  · exact .inr ⟨h, le_of_lt h'⟩
  · exact .inr ⟨h, le_of_eq h'⟩

/-! ## Constraints -/

/-- A constraint names an item of the list. -/
theorem lt_length_of_target? {name : String} {i : Nat} (h : target? items name = some i) :
    i < items.length := by
  obtain ⟨⟨item, k⟩, hlast, rfl⟩ := Option.map_eq_some_iff.1 h
  have hmem := (List.mem_filter.1 (List.mem_of_getLast? hlast)).1
  have := List.mem_zipIdx hmem
  omega

/-- Successors are items of the list. -/
theorem lt_length_of_mem_successors {i j : Nat} (h : j ∈ successors items i) :
    j < items.length := by
  obtain ⟨name, _, hname⟩ := List.mem_filterMap.1 h
  exact lt_length_of_target? hname

/-- How many constraints on an item come from items that are not placed. -/
def holding (items : List Ranked) (placed : List Nat) (i : Nat) : Nat :=
  (((List.range items.length).filter (· ∉ placed)).flatMap (successors items)).count i

/-- At the beginning every constraint holds. -/
theorem holding_nil (i : Nat) : holding items [] i = (held items).count i := by
  simp [holding, held]

/-- An item that is placed takes its own constraints with it. -/
theorem holding_snoc {placed : List Nat} {i : Nat} (hi : i < items.length) (hnew : i ∉ placed)
    (j : Nat) :
    holding items placed j = holding items (placed ++ [i]) j + (successors items i).count j := by
  -- what is not placed before is the item itself and what is not placed behind it
  have hperm : ((List.range items.length).filter (· ∉ placed)).Perm
      (i :: (List.range items.length).filter (· ∉ placed ++ [i])) := by
    refine (List.perm_ext_iff_of_nodup (List.nodup_range.filter _) ?_).2 fun k => ?_
    · exact List.nodup_cons.2 ⟨by simp, List.nodup_range.filter _⟩
    · by_cases hk : k = i
      · subst hk
        simp [hi, hnew]
      · simp [hk]
  rw [holding, (hperm.flatMap_right (successors items)).count_eq, List.flatMap_cons,
    List.count_append, Nat.add_comm, holding]

/-- Nothing holds an item back exactly if all that go before it are placed. -/
theorem holding_eq_zero_iff {placed : List Nat} {i : Nat} :
    holding items placed i = 0 ↔
      ∀ j < items.length, i ∈ successors items j → j ∈ placed := by
  rw [holding, List.count_eq_zero, List.mem_flatMap]
  constructor
  · intro h j hj hmem
    by_contra hnot
    exact h ⟨j, by simp [hj, hnot], hmem⟩
  · rintro h ⟨j, hj, hmem⟩
    rw [List.mem_filter, List.mem_range] at hj
    exact of_decide_eq_true hj.2 (h j hj.1 hmem)

/-! ## Greedy orders -/

/-- An item may come next: it is not placed, and all that go before it are. -/
def Free (items : List Ranked) (placed : List Nat) (i : Nat) : Prop :=
  i < items.length ∧ i ∉ placed ∧ ∀ j < items.length, i ∈ successors items j → j ∈ placed

/-- An item comes next: it is the least of those that may. -/
def Next (items : List Ranked) (placed : List Nat) (i : Nat) : Prop :=
  Free items placed i ∧ ∀ j, Free items placed j → precedes items i j = true

/-- Each item is the one that comes next behind those before it. -/
inductive Greedy (items : List Ranked) : List Nat → Prop
  | nil : Greedy items []
  | snoc {placed : List Nat} {i : Nat} :
    Greedy items placed → Next items placed i → Greedy items (placed ++ [i])

namespace Greedy

/-- A greedy order has only items of the list. -/
theorem lt_length {placed : List Nat} (h : Greedy items placed) :
    ∀ i ∈ placed, i < items.length := by
  induction h with
  | nil => simp
  | snoc _ hnext ih =>
    intro j hj
    rcases List.mem_append.1 hj with hj | hj
    · exact ih j hj
    · rw [List.mem_singleton.1 hj]
      exact hnext.1.1

/-- A greedy order has no item twice. -/
theorem nodup {placed : List Nat} (h : Greedy items placed) : placed.Nodup := by
  induction h with
  | nil => exact List.nodup_nil
  | snoc _ hnext ih =>
    refine List.nodup_append.2 ⟨ih, List.nodup_singleton _, fun a ha b hb heq => ?_⟩
    rw [heq, List.mem_singleton.1 hb] at ha
    exact hnext.1.2.1 ha

/-- What goes before an item that is placed is placed, too. -/
theorem closed {placed : List Nat} (h : Greedy items placed) :
    ∀ i ∈ placed, ∀ j < items.length, i ∈ successors items j → j ∈ placed := by
  induction h with
  | nil => simp
  | snoc _ hnext ih =>
    intro i hi j hj hmem
    rcases List.mem_append.1 hi with hi | hi
    · exact List.mem_append_left _ (ih i hi j hj hmem)
    · rw [List.mem_singleton.1 hi] at hmem
      exact List.mem_append_left _ (hnext.1.2.2 j hj hmem)

/-- The item at a place is the one that comes next behind those before it. -/
theorem next_getElem {placed : List Nat} (h : Greedy items placed) :
    ∀ (k : Nat) (hk : k < placed.length), Next items (placed.take k) placed[k] := by
  induction h with
  | nil => simp
  | @snoc placed i _ hnext ih =>
    intro k hk
    rw [List.length_append, List.length_singleton] at hk
    by_cases hlast : k < placed.length
    · rw [List.getElem_append_left hlast, List.take_append_of_le_length (le_of_lt hlast)]
      exact ih k hlast
    · have hkeq : k = placed.length := by omega
      subst hkeq
      simpa using hnext

/-- No index is out of range and none comes twice. -/
theorem subperm_range {placed : List Nat} (h : Greedy items placed) :
    placed.Subperm (List.range items.length) :=
  h.nodup.subperm fun i hi => List.mem_range.2 (h.lt_length i hi)

/-- A greedy order has no more items than there are. -/
theorem length_le {placed : List Nat} (h : Greedy items placed) : placed.length ≤ items.length := by
  have hle := h.subperm_range.length_le
  rwa [List.length_range] at hle

/-- Greedy orders of as many items as there are hold all of them. -/
theorem perm_range {placed : List Nat} (h : Greedy items placed)
    (hlen : placed.length = items.length) : placed.Perm (List.range items.length) :=
  h.subperm_range.perm_of_length_le (by rw [List.length_range, hlen])

end Greedy

/-! ## The items that nothing holds back -/

namespace Sweep

/-- An item that becomes ready is one more of those that are. -/
theorem insertReady_perm (i : Nat) (ready : List Nat) :
    (insertReady items i ready).Perm (i :: ready) := by
  induction ready with
  | nil => exact List.Perm.refl _
  | cons j rest ih =>
    unfold insertReady
    split
    · exact List.Perm.refl _
    · exact (ih.cons j).trans (List.Perm.swap i j rest)

/-- The items that are ready stay sorted. -/
theorem insertReady_sorted (i : Nat) {ready : List Nat}
    (h : ready.Pairwise fun j k => precedes items j k = true) :
    (insertReady items i ready).Pairwise fun j k => precedes items j k = true := by
  induction ready with
  | nil => exact List.pairwise_singleton _ _
  | cons j rest ih =>
    obtain ⟨hj, hrest⟩ := List.pairwise_cons.1 h
    unfold insertReady
    split
    · next hij =>
      refine List.pairwise_cons.2 ⟨fun k hk => ?_, h⟩
      rcases List.mem_cons.1 hk with rfl | hk
      · exact hij
      · exact precedes_trans hij (hj k hk)
    · next hij =>
      refine List.pairwise_cons.2 ⟨fun k hk => ?_, ih hrest⟩
      rcases List.mem_cons.1 ((insertReady_perm i rest).mem_iff.1 hk) with rfl | hk
      · exact (precedes_total j k).resolve_right hij
      · exact hj k hk

/-! ## What a step keeps -/

/-- The state tells degrees and ready items rightly, once the constraints on the items of `owed`
are dropped, which the item placed last has left behind. -/
structure Tracks (items : List Ranked) (owed : List Nat) (s : Sweep) : Prop where
  degree : ∀ j < items.length, s.degrees[j]? = some (holding items s.placed j + owed.count j)
  mem_ready : ∀ j, j ∈ s.ready ↔
    j < items.length ∧ j ∉ s.placed ∧ holding items s.placed j + owed.count j = 0
  nodup : s.ready.Nodup
  sorted : s.ready.Pairwise fun i j => precedes items i j = true

/-- Dropping a constraint settles one item that is owed. -/
theorem Tracks.release {s : Sweep} {j : Nat} {owed : List Nat} (h : Tracks items (j :: owed) s)
    (hj : j < items.length) (hnew : j ∉ s.placed) : Tracks items owed (release items s j) := by
  have hdegree : ∀ k < items.length, (s.degrees.modify j (· - 1))[k]?
      = some (holding items s.placed k + owed.count k) := by
    intro k hk
    rw [List.getElem?_modify, h.degree k hk, List.count_cons]
    by_cases hkj : j = k
    · simp [hkj]
    · simp [hkj]
  -- an item that is owed has a positive degree, so it is not ready before
  have hnot : j ∉ s.ready := by
    rw [h.mem_ready]
    rintro ⟨_, _, hzero⟩
    rw [List.count_cons_self] at hzero
    omega
  have hmem : ∀ k ≠ j, (k ∈ s.ready ↔ k < items.length ∧ k ∉ s.placed ∧
      holding items s.placed k + owed.count k = 0) := by
    intro k hk
    rw [h.mem_ready, List.count_cons_of_ne (Ne.symm hk)]
  unfold Sweep.release
  simp only [hdegree j hj]
  by_cases hzero : holding items s.placed j + owed.count j = 0
  · -- this was the last constraint on the item, which joins the ready ones
    have hperm : (insertReady items j s.ready).Perm (j :: s.ready) := insertReady_perm j s.ready
    simp only [hzero, beq_self_eq_true, if_true]
    refine ⟨hdegree, fun k => ?_, ?_, insertReady_sorted j h.sorted⟩
    · rw [hperm.mem_iff, List.mem_cons]
      by_cases hk : k = j
      · simp [hk, hj, hnew, hzero]
      · simp [hk, hmem k hk]
    · exact hperm.nodup_iff.2 (List.nodup_cons.2 ⟨hnot, h.nodup⟩)
  · have hbeq : (some (holding items s.placed j + owed.count j) == some 0) = false := by
      simpa using hzero
    simp only [hbeq, Bool.false_eq_true, if_false]
    refine ⟨hdegree, fun k => ?_, h.nodup, h.sorted⟩
    by_cases hk : k = j
    · subst hk
      exact ⟨fun hin => absurd hin hnot, fun hin => absurd hin.2.2 hzero⟩
    · exact hmem k hk

@[simp] theorem placed_release (s : Sweep) (j : Nat) :
    (release items s j).placed = s.placed := rfl

/-- Dropping constraints places no item. -/
theorem placed_foldl_release (owed : List Nat) (s : Sweep) :
    (owed.foldl (release items) s).placed = s.placed := by
  induction owed generalizing s with
  | nil => rfl
  | cons j owed ih => rw [List.foldl_cons, ih, placed_release]

/-- Dropping some of the constraints that an item has left behind leaves the others owed. -/
theorem Tracks.foldl_release {dropped owed : List Nat} {s : Sweep}
    (h : Tracks items (dropped ++ owed) s)
    (hdropped : ∀ j ∈ dropped, j < items.length ∧ j ∉ s.placed) :
    Tracks items owed (dropped.foldl (Sweep.release items) s) := by
  induction dropped generalizing s with
  | nil => exact h
  | cons j dropped ih =>
    obtain ⟨hj, hnew⟩ := hdropped j (List.mem_cons_self ..)
    refine ih (h.release hj hnew) fun k hk => ?_
    rw [placed_release]
    exact hdropped k (List.mem_cons_of_mem _ hk)

/-- The invariant of ordering: degrees and ready items are right, and the items placed came one
after the other, each the least that could come. -/
structure Inv (items : List Ranked) (s : Sweep) : Prop where
  tracks : Tracks items [] s
  greedy : Greedy items s.placed

/-- The items that are ready are those that may come next. -/
theorem Inv.mem_ready {s : Sweep} (h : Inv items s) (i : Nat) :
    i ∈ s.ready ↔ Free items s.placed i := by
  rw [h.tracks.mem_ready, Free, List.count_nil, Nat.add_zero, holding_eq_zero_iff]

/-- The first ready item is the one that comes next. -/
theorem Inv.next_head {s : Sweep} (h : Inv items s) {i : Nat} {rest : List Nat}
    (hready : s.ready = i :: rest) : Next items s.placed i := by
  -- every item that may come next is ready, and the ready ones are sorted
  refine ⟨(h.mem_ready i).1 (by simp [hready]), fun j hfree => ?_⟩
  have hj : j ∈ i :: rest := hready ▸ (h.mem_ready j).2 hfree
  rcases List.mem_cons.1 hj with rfl | hj
  · exact precedes_refl j
  · have hsorted := h.tracks.sorted
    rw [hready] at hsorted
    exact (List.pairwise_cons.1 hsorted).1 j hj

/-- The state once the first of the ready items is placed, before its constraints are dropped. -/
def place (s : Sweep) (i : Nat) (rest : List Nat) : Sweep :=
  { s with ready := rest, placed := s.placed ++ [i] }

@[simp] theorem ready_place (s : Sweep) (i : Nat) (rest : List Nat) :
    (s.place i rest).ready = rest := rfl

@[simp] theorem placed_place (s : Sweep) (i : Nat) (rest : List Nat) :
    (s.place i rest).placed = s.placed ++ [i] := rfl

/-- Right after an item is taken off the ready ones, its constraints are owed. -/
theorem Inv.tracks_place {s : Sweep} (h : Inv items s) {i : Nat} {rest : List Nat}
    (hready : s.ready = i :: rest) : Tracks items (successors items i) (s.place i rest) := by
  obtain ⟨hi, hnew, -⟩ := (h.next_head hready).1
  have hsplit (j : Nat) : holding items s.placed j =
      holding items (s.placed ++ [i]) j + (successors items i).count j :=
    holding_snoc hi hnew j
  have hnodup : i ∉ rest ∧ rest.Nodup := List.nodup_cons.1 (hready ▸ h.tracks.nodup)
  refine ⟨fun j hj => ?_, fun j => ?_, hnodup.2, ?_⟩
  · have hdegree := h.tracks.degree j hj
    rwa [List.count_nil, Nat.add_zero, hsplit j] at hdegree
  · have hmem := h.tracks.mem_ready j
    rw [hready, List.count_nil, Nat.add_zero, hsplit j] at hmem
    by_cases hji : j = i
    · subst hji
      simp [hnodup.1]
    · simpa [hji] using hmem
  · have hsorted := h.tracks.sorted
    rw [hready] at hsorted
    exact (List.pairwise_cons.1 hsorted).2

/-- The items that a ready item holds back are not placed. -/
theorem Inv.not_placed_of_mem_successors {s : Sweep} (h : Inv items s) {i : Nat}
    (hfree : Free items s.placed i) {j : Nat} (hj : j ∈ successors items i) :
    j ∉ s.placed ++ [i] := by
  intro hmem
  rcases List.mem_append.1 hmem with hmem | hmem
  · exact hfree.2.1 (h.greedy.closed j hmem i hfree.1 hj)
  · rw [List.mem_singleton.1 hmem] at hj
    exact hfree.2.1 (hfree.2.2 i hfree.1 hj)

/-- While a step drops the constraints of the item placed, those not yet dropped are owed. -/
theorem Inv.tracks_within {s : Sweep} (h : Inv items s) {i : Nat} {rest dropped owed : List Nat}
    (hready : s.ready = i :: rest) (howed : successors items i = dropped ++ owed) :
    Tracks items owed (dropped.foldl (Sweep.release items) (s.place i rest)) := by
  have hplaced := h.tracks_place hready
  rw [howed] at hplaced
  refine hplaced.foldl_release fun j hj => ?_
  have hmem : j ∈ successors items i := howed ▸ List.mem_append_left owed hj
  exact ⟨lt_length_of_mem_successors hmem,
    h.not_placed_of_mem_successors (h.next_head hready).1 hmem⟩

/-- With no item ready nothing happens any more. -/
theorem step_nil {s : Sweep} (hready : s.ready = []) : step items s = s := by
  simp [step, hready]

/-- A step places the first of the items that are ready, and drops its constraints. -/
theorem step_cons {s : Sweep} {i : Nat} {rest : List Nat} (hready : s.ready = i :: rest) :
    step items s = (successors items i).foldl (release items) (s.place i rest) := by
  simp only [step, hready, place]

/-- A step adds one item to those that are placed. -/
theorem placed_step_cons {s : Sweep} {i : Nat} {rest : List Nat} (hready : s.ready = i :: rest) :
    (step items s).placed = s.placed ++ [i] := by
  rw [step_cons hready, placed_foldl_release, placed_place]

/-- A step keeps the invariant: the first ready item is the least that may come. -/
theorem Inv.step {s : Sweep} (h : Inv items s) : Inv items (step items s) := by
  cases hready : s.ready with
  | nil => rwa [step_nil hready]
  | cons i rest =>
    refine ⟨?_, ?_⟩
    · -- the constraints of the item are owed once it is placed, and in the end all are dropped
      rw [step_cons hready]
      exact h.tracks_within hready (List.append_nil _).symm
    · rw [placed_step_cons hready]
      exact h.greedy.snoc (h.next_head hready)

/-- Any number of steps keeps the invariant. -/
theorem Inv.run {s : Sweep} (h : Inv items s) (n : Nat) : Inv items (run items n s) := by
  induction n generalizing s with
  | zero => exact h
  | succ n ih => exact ih h.step

/-! ## The beginning -/

/-- Items that become ready one by one are all among those that are. -/
theorem foldl_insertReady_perm (free : List Nat) :
    ∀ ready : List Nat, (free.foldl (fun ready i => insertReady items i ready) ready).Perm
      (free ++ ready) := by
  induction free with
  | nil => exact fun ready => List.Perm.refl _
  | cons i free ih =>
    intro ready
    exact (ih _).trans (((insertReady_perm i ready).append_left free).trans List.perm_middle)

/-- Items that become ready one by one leave those that are sorted. -/
theorem foldl_insertReady_sorted (free : List Nat) :
    ∀ ready : List Nat, (ready.Pairwise fun i j => precedes items i j = true) →
      (free.foldl (fun ready i => insertReady items i ready) ready).Pairwise
        fun i j => precedes items i j = true := by
  induction free with
  | nil => exact fun ready h => h
  | cons i free ih => exact fun ready h => ih _ (insertReady_sorted i h)

/-- At the beginning the degrees are counted and the free items are ready, so the invariant holds.
-/
theorem inv_start (items : List Ranked) : Inv items (start items) := by
  have hdegree : ∀ j < items.length,
      ((List.range items.length).map fun i => (held items).count i)[j]?
        = some (holding items [] j) := by
    intro j hj
    rw [List.getElem?_map, List.getElem?_range hj, holding_nil]
    rfl
  refine ⟨⟨hdegree, fun j => ?_, ?_, foldl_insertReady_sorted _ _ List.Pairwise.nil⟩, Greedy.nil⟩
  · simp only [start, (foldl_insertReady_perm _ _).mem_iff, List.append_nil, List.mem_filter,
      List.mem_range]
    refine and_congr_right fun hj => ?_
    rw [hdegree j hj]
    simp
  · refine (foldl_insertReady_perm _ _).nodup_iff.2 ?_
    rw [List.append_nil]
    exact List.nodup_range.filter _

/-- Whatever number of steps is made, the invariant holds. -/
theorem inv_run_start (items : List Ranked) (n : Nat) : Inv items (run items n (start items)) :=
  (inv_start items).run n

end Sweep

end Ranked
end ChrootScan
