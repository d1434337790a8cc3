import ChrootScan.Failure
import ChrootScan.Text.Fields

/-!
# The order in which analyzers are configured

An analyzer may ask to be configured before others; constraints on names that nobody has do not
count. Among those that no constraint holds back, the least goes next by priority and name, so the
order does not hang on the order of the input. Items are spoken of by their index in the input.
-/

namespace ChrootScan

/-- What decides the place of an item. -/
structure Ranked where
  name : String
  priority : Nat := 0x10
  /-- The names of the items that have to follow. -/
  before : List String := []
deriving DecidableEq, Repr

namespace Ranked

/-! ## Constraints -/

/-- The index of the last item with a name. -/
def target? (items : List Ranked) (name : String) : Option Nat :=
  ((items.zipIdx.filter fun (item, _) => item.name == name).getLast?).map (·.2)

/-- The items that have to follow an item, one for every time that it says so. -/
def successors (items : List Ranked) (i : Nat) : List Nat :=
  ((items[i]?.map Ranked.before).getD []).filterMap (target? items)

/-- All constraints, each by the item that has to follow. -/
def held (items : List Ranked) : List Nat :=
  (List.range items.length).flatMap (successors items)

/-- An item goes before another one, when no constraint holds back either. -/
def precedes (items : List Ranked) (i j : Nat) : Bool :=
  let key (k : Nat) : Nat × String :=
    (items[k]?.map fun item => (item.priority, item.name)).getD (0, "")
  let (pi, ni) := key i
  let (pj, nj) := key j
  pi < pj || (pi == pj && (ni < nj || (ni == nj && i ≤ j)))

/-! ## One after the other -/

/-- The state of ordering. -/
structure Sweep where
  /-- How many constraints hold each item back, by those not yet placed. -/
  degrees : List Nat
  /-- The items that nothing holds back, the next one first. -/
  ready : List Nat
  /-- The items placed, in order. -/
  placed : List Nat := []
deriving DecidableEq, Repr

namespace Sweep

/-- Puts an item among those that nothing holds back. -/
def insertReady (items : List Ranked) (i : Nat) : List Nat → List Nat
  | [] => [i]
  | j :: rest => if precedes items i j then i :: j :: rest else j :: insertReady items i rest

/-- The state before any item is placed. -/
def start (items : List Ranked) : Sweep :=
  let degrees := (List.range items.length).map fun i => (held items).count i
  let free := (List.range items.length).filter fun i => degrees[i]? == some 0
  { degrees, ready := free.foldl (fun ready i => insertReady items i ready) [] }

/-- Drops one constraint on an item, which is free if it was the last one. -/
def release (items : List Ranked) (s : Sweep) (j : Nat) : Sweep :=
  let degrees := s.degrees.modify j (· - 1)
  { s with
    degrees
    ready := if degrees[j]? == some 0 then insertReady items j s.ready else s.ready }

/-- Places the next item, if one is free. -/
def step (items : List Ranked) (s : Sweep) : Sweep :=
  match s.ready with
  | [] => s
  | i :: rest =>
    (successors items i).foldl (release items) { s with ready := rest, placed := s.placed ++ [i] }

/-- The state after `n` steps. -/
def run (items : List Ranked) : Nat → Sweep → Sweep
  | 0, s => s
  | n + 1, s => run items n (step items s)

/-- The names of the items that are held back for ever. -/
def stuck (items : List Ranked) (s : Sweep) : List String :=
  (items.zipIdx.filter fun (_, i) => (s.degrees[i]?.getD 0) > 0).map (·.1.name)

end Sweep

/-- The order of items, by their indices. Every step places one item, so as many steps as there are
items are enough. -/
def order (items : List Ranked) : Except ScanError (List Nat) :=
  let s := Sweep.run items items.length (Sweep.start items)
  if s.placed.length = items.length then .ok s.placed
  else
    .error (.usage ("cyclic ordering constraints between plugins: "
      ++ Text.join ", " (s.stuck items)))

/-- Items in the order that `view` gives them. -/
def arrange {α : Type} (view : α → Ranked) (items : List α) : Except ScanError (List α) :=
  (order (items.map view)).map fun indices => indices.filterMap (items[·]?)

end Ranked

end ChrootScan
