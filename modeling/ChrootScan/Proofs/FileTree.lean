import ChrootScan.FileTree
import Mathlib.Tactic

/-!
# Appending to files

Appending to a file puts more bytes at its place and nothing else. No path leads elsewhere afterwards
(`locate_appendBytes`), so a file that lies at another place is read as before.
-/

namespace ChrootScan.FileTree

variable {t : FileTree} {place : Place}

/-! ## Nodes -/

theorem node?_put_self (h : place ≠ []) (node : Node) : (t.put place node).node? place = some node := by
  have hempty : place.isEmpty = false := List.isEmpty_eq_false_iff.2 h
  simp only [node?, put, hempty, Bool.false_eq_true, if_false, List.lookup_cons_self]

/-- What is left of an association is found as before. -/
theorem lookup_filter (keep : Place → Bool) (nodes : List (Place × Node)) (place : Place) :
    (nodes.filter fun e => keep e.1).lookup place =
      if keep place then nodes.lookup place else none := by
  induction nodes with
  | nil => exact (ite_self _).symm
  | cons entry nodes ih =>
    obtain ⟨here, node⟩ := entry
    rw [List.filter_cons]
    dsimp only
    split_ifs with hkeep hplace hplace
    · rw [List.lookup_cons, List.lookup_cons, ih, if_pos hplace]
    · have hother : (place == here) = false :=
        beq_eq_false_iff_ne.2 fun hsame => hplace (hsame ▸ hkeep)
      rw [List.lookup_cons, hother, ih, if_neg hplace]
    · have hother : (place == here) = false :=
        beq_eq_false_iff_ne.2 fun hsame => hkeep (hsame ▸ hplace)
      rw [List.lookup_cons, hother, ih, if_pos hplace]
    · rw [ih, if_neg hplace]

theorem node?_put_of_ne {place' : Place} (h : place' ≠ place) (node : Node) :
    (t.put place node).node? place' = t.node? place' := by
  have hother : (place' == place) = false := beq_eq_false_iff_ne.2 h
  have hkept := lookup_filter (fun p => decide (p ≠ place)) t.nodes place'
  rw [if_pos (decide_eq_true h)] at hkept
  simp only [node?, put, List.lookup_cons, hother, hkept]

/-- Nothing is left at a place that was taken away, or below it. -/
theorem node?_prune {place' : Place} (h : place' ≠ []) :
    (t.prune place).node? place' = if place.isPrefixOf place' then none else t.node? place' := by
  have hempty : place'.isEmpty = false := List.isEmpty_eq_false_iff.2 h
  have hkept := lookup_filter (fun p => !place.isPrefixOf p) t.nodes place'
  simp only [node?, prune, hempty, Bool.false_eq_true, if_false, hkept]
  cases place.isPrefixOf place' <;> rfl

/-- The root is no file. -/
theorem ne_nil_of_node? {bytes : ByteArray} {mode : Nat}
    (h : t.node? place = some (.file bytes mode)) : place ≠ [] := by
  rintro rfl
  cases h

/-! ## Reading -/

/-- What is read as a text is a file. -/
theorem isFile_of_readText {path content : String} (h : t.readText path = .ok content) :
    t.isFile path = true := by
  rw [readText, readBytes] at h
  rw [isFile]
  cases hstat : t.stat path with
  | error e =>
    rw [hstat] at h
    cases h
  | ok node =>
    rw [hstat] at h
    cases node with
    | file => rfl
    | dir => cases h
    | link => cases h

/-! ## Steps of a walk -/

section
variable {follow : Bool} {jump : Place → List String → Except SystemError Place}
  {here reached : Place}

/-- What the first name of a walk does, if the walk reaches a place. -/
inductive Leads (t : FileTree) (follow : Bool)
    (jump : Place → List String → Except SystemError Place) (here : Place) (name : String)
    (rest : List String) (reached : Place) : Prop
  | stay (hname : name = ".") (hrest : t.walkBy follow jump here rest = .ok reached)
  | up (hname : name = "..") (hrest : t.walkBy follow jump here.dropLast rest = .ok reached)
  /-- The walk ends with this name, at a link only if that is not followed. -/
  | last (hname : name ≠ "." ∧ name ≠ "..") (hrest : rest = []) (hreached : reached = here ++ [name])
      (hlink : ∀ target, t.node? (here ++ [name]) = some (.link target) → follow = false)
  | into (hname : name ≠ "." ∧ name ≠ "..") (hdir : t.node? (here ++ [name]) = some .dir)
      (hrest : t.walkBy follow jump (here ++ [name]) rest = .ok reached)
  | through {target : String} (hname : name ≠ "." ∧ name ≠ "..")
      (hlink : t.node? (here ++ [name]) = some (.link target))
      (hmore : (rest.isEmpty && !follow) = false)
      (hrest : jump (if Path.isAbsolute target then [] else here) (Path.pieces target ++ rest) =
        .ok reached)

variable {name : String} {rest : List String}

/-- At a name that is neither of the dots, a walk depends on the node that the name leads to. -/
theorem walkBy_cons_of_ne (hname : name ≠ "." ∧ name ≠ "..") :
    t.walkBy follow jump here (name :: rest) =
      match t.node? (here ++ [name]) with
      | none => if rest.isEmpty then .ok (here ++ [name]) else .error .notFound
      | some .dir => t.walkBy follow jump (here ++ [name]) rest
      | some (.file ..) => if rest.isEmpty then .ok (here ++ [name]) else .error .notADirectory
      | some (.link target) =>
        if rest.isEmpty && !follow then .ok (here ++ [name])
        else jump (if Path.isAbsolute target then [] else here) (Path.pieces target ++ rest) := by
  rw [walkBy, if_neg hname.1]
  exact if_neg hname.2

/-- A walk that ends with a name reaches what the name leads to. -/
theorem leads_of_isEmpty (hname : name ≠ "." ∧ name ≠ "..") {answer : Except SystemError Place}
    (h : (if rest.isEmpty then .ok (here ++ [name]) else answer) = .ok reached)
    (hlink : ∀ target, t.node? (here ++ [name]) = some (.link target) → follow = false)
    (hanswer : answer ≠ .ok reached) : Leads t follow jump here name rest reached := by
  split at h
  · next hrest => exact .last hname (List.isEmpty_iff.1 hrest) (Except.ok.inj h).symm hlink
  · exact absurd h hanswer

/-- At a name that is neither of the dots, a walk that reaches a place goes by the node there. -/
theorem leads_of_walkBy (hname : name ≠ "." ∧ name ≠ "..")
    (h : t.walkBy follow jump here (name :: rest) = .ok reached) :
    Leads t follow jump here name rest reached := by
  rw [walkBy_cons_of_ne hname] at h
  rcases hnode : t.node? (here ++ [name]) with _ | ⟨bytes, mode⟩ | _ | target
  · rw [hnode] at h
    exact leads_of_isEmpty hname h (by rw [hnode]; nofun) nofun
  · rw [hnode] at h
    exact leads_of_isEmpty hname h (by rw [hnode]; nofun) nofun
  · rw [hnode] at h
    exact .into hname hnode h
  · rw [hnode] at h
    dsimp only at h
    -- a link is not passed only at the end, and only if links there are not to be followed
    split at h
    · next hend =>
      rw [Bool.and_eq_true, Bool.not_eq_true'] at hend
      exact .last hname (List.isEmpty_iff.1 hend.1) (Except.ok.inj h).symm fun _ _ => hend.2
    · next hmore => exact .through hname hnode (Bool.eq_false_of_not_eq_true hmore) h

/-- What leads to a place is a walk that reaches it. -/
theorem Leads.walkBy_eq_ok (h : Leads t follow jump here name rest reached) :
    t.walkBy follow jump here (name :: rest) = .ok reached := by
  cases h with
  | stay hname hrest => rwa [walkBy, if_pos hname]
  | up hname hrest =>
    subst hname
    rw [walkBy]
    exact hrest
  | last hname hrest hreached hlink =>
    subst hrest hreached
    rw [walkBy_cons_of_ne hname]
    rcases hnode : t.node? (here ++ [name]) with _ | _ | _ | target
    · rfl
    · rfl
    · rfl
    · rw [hlink target hnode]
      rfl
  | into hname hdir hrest =>
    rw [walkBy_cons_of_ne hname, hdir]
    exact hrest
  | through hname hlink hmore hrest =>
    rw [walkBy_cons_of_ne hname, hlink]
    dsimp only
    rw [hmore]
    exact hrest

/-- The first name of a walk that reaches a place stays, goes up, or leads to a node, and nothing
else brings the walk to the place. -/
theorem walkBy_cons_eq_ok_iff :
    t.walkBy follow jump here (name :: rest) = .ok reached ↔
      Leads t follow jump here name rest reached := by
  refine ⟨fun h => ?_, Leads.walkBy_eq_ok⟩
  by_cases hstay : name = "."
  · rw [walkBy, if_pos hstay] at h
    exact .stay hstay h
  by_cases hup : name = ".."
  · subst hup
    rw [walkBy] at h
    exact .up rfl h
  · exact leads_of_walkBy ⟨hstay, hup⟩ h

end

/-! ## Walks -/

section
variable {old : ByteArray} {mode : Nat} (hfile : t.node? place = some (.file old mode))
  (new : ByteArray)

include hfile

/-- Every walk from one place to the next goes the same way if a file has other bytes. -/
theorem walkBy_put_file {follow : Bool}
    {jump jump' : Place → List String → Except SystemError Place}
    (hjump : ∀ here names, jump' here names = jump here names) (here : Place) (names : List String) :
    (t.put place (.file new mode)).walkBy follow jump' here names =
      t.walkBy follow jump here names := by
  induction names generalizing here with
  | nil => rfl
  | cons name rest ih =>
    rw [walkBy, walkBy]
    simp only [ih, hjump]
    by_cases hnext : here ++ [name] = place
    · rw [hnext, node?_put_self (ne_nil_of_node? hfile), hfile]
    · rw [node?_put_of_ne hnext]

theorem walk_put_file (follow : Bool) (links : Nat) (here : Place) (names : List String) :
    (t.put place (.file new mode)).walk follow links here names = t.walk follow links here names := by
  induction links generalizing here names with
  | zero => exact walkBy_put_file hfile new (fun _ _ => rfl) here names
  | succ links ih => exact walkBy_put_file hfile new ih here names

/-- Every path means the same place if a file has other bytes. -/
theorem locate_put_file (follow : Bool) (path : String) :
    (t.put place (.file new mode)).locate follow path = t.locate follow path := by
  simp only [locate, walk_put_file hfile new]
  rfl

end

/-! ## Appending -/

/-- Appending to a file puts more bytes at its place; appending to anything else does nothing. -/
theorem appendBytes_cases (t : FileTree) (path : String) (bytes : ByteArray) :
    t.appendBytes path bytes = t ∧ (∀ old, t.readBytes path ≠ .ok old) ∨
      ∃ place old mode, t.locate true path = .ok place ∧
        t.node? place = some (.file old mode) ∧
        t.appendBytes path bytes = t.put place (.file (old ++ bytes) mode) := by
  unfold appendBytes readBytes stat
  rcases t.locate true path with e | place
  · exact .inl ⟨rfl, nofun⟩
  · dsimp only [Except.bind]
    rcases hnode : t.node? place with _ | ⟨old, mode⟩ | _ | target
    · exact .inl ⟨rfl, nofun⟩
    · exact .inr ⟨place, old, mode, rfl, hnode, rfl⟩
    · exact .inl ⟨rfl, nofun⟩
    · exact .inl ⟨rfl, nofun⟩

/-- Appending leads no path elsewhere. -/
theorem locate_appendBytes (t : FileTree) (path : String) (bytes : ByteArray) (follow : Bool)
    (path' : String) : (t.appendBytes path bytes).locate follow path' = t.locate follow path' := by
  rcases t.appendBytes_cases path bytes with ⟨hsame, -⟩ | ⟨place, old, mode, -, hfile, hput⟩
  · rw [hsame]
  · rw [hput, locate_put_file hfile]

/-- A file that was appended to holds what it held before, and the new bytes behind that. -/
theorem readBytes_appendBytes_self {path : String} {old : ByteArray}
    (h : t.readBytes path = .ok old) (bytes : ByteArray) :
    (t.appendBytes path bytes).readBytes path = .ok (old ++ bytes) := by
  rcases t.appendBytes_cases path bytes with ⟨-, hnone⟩ | ⟨place, old', mode, hplace, hfile, hput⟩
  · exact absurd h (hnone old)
  · have hread : t.readBytes path = .ok old' := by
      simp only [readBytes, stat, hplace, Except.bind, hfile]
    obtain rfl : old = old' := Except.ok.inj (h.symm.trans hread)
    rw [hput]
    simp only [readBytes, stat, locate_put_file hfile, hplace, Except.bind,
      node?_put_self (ne_nil_of_node? hfile)]

/-- A file at another place is read as before. -/
theorem readBytes_appendBytes_of_ne {path path' : String}
    (h : t.locate true path' ≠ t.locate true path) (bytes : ByteArray) :
    (t.appendBytes path bytes).readBytes path' = t.readBytes path' := by
  rcases t.appendBytes_cases path bytes with ⟨hsame, -⟩ | ⟨place, old, mode, hplace, hfile, hput⟩
  · rw [hsame]
  · rw [hput]
    simp only [readBytes, stat, locate_put_file hfile]
    rcases hplace' : t.locate true path' with e | place'
    · rfl
    · have hne : place' ≠ place := by
        rintro rfl
        exact h (hplace'.trans hplace.symm)
      simp only [Except.bind, node?_put_of_ne hne]

end ChrootScan.FileTree
