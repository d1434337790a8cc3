import ChrootScan.Text.Word

/-!
# Patterns

Regular expressions, used to choose what a scan of sources leaves out. Only whether a text contains
a match is ever asked, so the meaning of a pattern is the set of places where a match that begins
at one of the given places can end.
-/

namespace ChrootScan

/-- The zero-width conditions on a place in a text. -/
inductive Anchor
  | start
  | stop
  | lineStart
  | lineStop
  | boundary
  | inside
  /-- A word starts here. -/
  | wordStart
  /-- A word stops here. -/
  | wordStop
deriving DecidableEq, Repr

inductive Pattern
  /-- Matches the empty text. -/
  | empty
  /-- One character out of a class. -/
  | one (accepts : Char → Bool)
  | anchor (a : Anchor)
  | seq (first second : Pattern)
  | either (first second : Pattern)
  /-- Any number of repetitions. -/
  | many (p : Pattern)
  /-- Exactly `n` repetitions. -/
  | times (n : Nat) (p : Pattern)
  /-- At most `n` repetitions. -/
  | upTo (n : Nat) (p : Pattern)

namespace Pattern

/-- The character before a place is one of a word. -/
def wordBefore (text : Array Char) (i : Nat) : Bool :=
  match i with
  | 0 => false
  | i + 1 => (text[i]?.map Text.isWord).getD false

/-- The character behind a place is one of a word. -/
def wordBehind (text : Array Char) (i : Nat) : Bool :=
  (text[i]?.map Text.isWord).getD false

/-- A condition holds at a place. -/
def holdsAt (text : Array Char) (a : Anchor) (i : Nat) : Bool :=
  match a with
  | .start => i == 0
  | .stop => i == text.size
  | .lineStart => i == 0 || text[i - 1]? == some '\n'
  | .lineStop => i == text.size || text[i]? == some '\n'
  | .boundary => wordBefore text i != wordBehind text i
  | .inside => wordBefore text i == wordBehind text i
  | .wordStart => !wordBefore text i && wordBehind text i
  | .wordStop => wordBefore text i && !wordBehind text i

/-- The union of two sets of places. -/
def union (a b : List Nat) : List Nat :=
  a ++ b.filter fun i => !a.contains i

/-- All places that `step` reaches from `places` in at most `n` rounds. -/
def closure (step : List Nat → List Nat) : Nat → List Nat → List Nat
  | 0, places => places
  | n + 1, places => closure step n (union places (step places))

/-- The places where matches of a pattern end that begin at one of `places`. -/
def reach (text : Array Char) : Pattern → List Nat → List Nat
  | empty, places => places
  | one accepts, places =>
    (places.filter fun i => (text[i]?.map accepts).getD false).map (· + 1)
  | anchor a, places => places.filter (holdsAt text a)
  | seq p q, places => reach text q (reach text p places)
  | either p q, places => union (reach text p places) (reach text q places)
  | many p, places => closure (reach text p) text.size places
  | times n p, places => n.fold (fun _ _ places => reach text p places) places
  | upTo n p, places => closure (reach text p) (min n text.size) places

/-- A text contains a match. -/
def occursIn (p : Pattern) (s : String) : Bool :=
  let text := s.toList.toArray
  !(reach text p (List.range (text.size + 1))).isEmpty

end Pattern

end ChrootScan
