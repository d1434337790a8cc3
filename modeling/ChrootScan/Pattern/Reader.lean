import ChrootScan.Pattern
import ChrootScan.Text.Blank
import ChrootScan.Text.Decimal
import ChrootScan.Text.Digit

/-!
# The written form of patterns

Reading of regular expressions with Unicode classes and without look-around and back-references.
Whether a repetition is greedy makes no difference here, since only occurrence is asked.
-/

namespace ChrootScan.Pattern

/-- Modes that a group can switch. -/
structure Modes where
  ignoreCase : Bool := false
  multiLine : Bool := false
  dotAll : Bool := false
  /-- Blanks and comments do not count. -/
  verbose : Bool := false
deriving DecidableEq, Repr

/-! ## Classes of characters -/

/-- The class of one character, under the modes in force. -/
def literalClass (modes : Modes) (c : Char) : Char → Bool :=
  if modes.ignoreCase then fun d => Text.lowerChar c == Text.lowerChar d else (c == ·)

/-- The class between two characters, under the modes in force. -/
def rangeClass (modes : Modes) (lo hi : Char) : Char → Bool := fun c =>
  let inside (d : Char) : Bool := lo ≤ d && d ≤ hi
  inside c || (modes.ignoreCase && (c.isAlpha && (inside c.toUpper || inside c.toLower)
    || (Text.lowerChar c).any inside))

/-- The class behind a backslash. -/
def escapeClass? : Char → Option (Char → Bool)
  | 'd' => some Text.isDigit
  | 'D' => some (!Text.isDigit ·)
  | 's' => some Text.isBlank
  | 'S' => some (!Text.isBlank ·)
  | 'w' => some Text.isWord
  | 'W' => some (!Text.isWord ·)
  | _ => none

/-- The named classes of ASCII characters. -/
def namedClass? : String → Option (Char → Bool)
  | "alnum" => some (·.isAlphanum)
  | "alpha" => some (·.isAlpha)
  | "ascii" => some (·.toNat < 128)
  | "blank" => some fun c => c == ' ' || c == '\t'
  | "cntrl" => some fun c => c.toNat < 32 || c.toNat == 127
  | "digit" => some (·.isDigit)
  | "graph" => some fun c => 33 ≤ c.toNat && c.toNat < 127
  | "lower" => some (·.isLower)
  | "print" => some fun c => 32 ≤ c.toNat && c.toNat < 127
  | "punct" => some fun c => 33 ≤ c.toNat && c.toNat < 127 && !c.isAlphanum
  | "space" => some fun c => c == ' ' || (9 ≤ c.toNat && c.toNat ≤ 13)
  | "upper" => some (·.isUpper)
  | "word" => some fun c => c.isAlphanum || c == '_'
  | "xdigit" => some fun c => c.isDigit || ('a' ≤ c && c ≤ 'f') || ('A' ≤ c && c ≤ 'F')
  | _ => none

/-- A character that a backslash may stand before to mean itself. -/
def isEscapable (c : Char) : Bool :=
  c.toNat < 128 && !c.isAlphanum && c != '<' && c != '>' && !Text.isBlank c && c.toNat ≥ 32
    && c.toNat != 127

/-- The character that an escape of one letter stands for. -/
def controlChar? : Char → Option Char
  | 'a' => some '\x07'
  | 'f' => some '\x0c'
  | 't' => some '\t'
  | 'n' => some '\n'
  | 'r' => some '\r'
  | 'v' => some '\x0b'
  | _ => none

/-- The value of hexadecimal digits, the most significant first. -/
def hexValue? (digits : List Char) : Option Nat :=
  digits.foldl
    (fun value c =>
      let digit :=
        if c.isDigit then some (c.toNat - '0'.toNat)
        else if 'a' ≤ c ∧ c ≤ 'f' then some (c.toNat - 'a'.toNat + 10)
        else if 'A' ≤ c ∧ c ≤ 'F' then some (c.toNat - 'A'.toNat + 10)
        else none
      value.bind fun v => digit.map (16 * v + ·))
    (some 0)

/-- The character with a number that is one. -/
def charOfNumber? (n : Nat) : Option Char :=
  if h : n.isValidChar then some (Char.ofNatAux n h) else none

/-- Reads a number in hexadecimal: in braces, or with a fixed count of digits. -/
def readHex? (count : Nat) : List Char → Option (Char × List Char)
  | '\x7b' :: rest =>
    let digits := rest.takeWhile (· ≠ '\x7d')
    match rest.drop digits.length with
    | _ :: rest =>
      if digits.isEmpty then none
      else ((hexValue? digits).bind charOfNumber?).map (·, rest)
    | [] => none
  | all =>
    if all.length < count then none
    else ((hexValue? (all.take count)).bind charOfNumber?).map (·, all.drop count)

/-- What an escape stands for. -/
inductive Escape
  | char (c : Char)
  | cls (accepts : Char → Bool)
  | zeroWidth (a : Anchor)

/-- Reads what stands behind a backslash. -/
def readEscape? : List Char → Option (Escape × List Char)
  | [] => none
  | 'x' :: rest => (readHex? 2 rest).map fun (c, rest) => (.char c, rest)
  | 'u' :: rest => (readHex? 4 rest).map fun (c, rest) => (.char c, rest)
  | 'U' :: rest => (readHex? 8 rest).map fun (c, rest) => (.char c, rest)
  | 'A' :: rest => some (.zeroWidth .start, rest)
  | 'z' :: rest => some (.zeroWidth .stop, rest)
  | 'b' :: rest => some (.zeroWidth .boundary, rest)
  | 'B' :: rest => some (.zeroWidth .inside, rest)
  | '<' :: rest => some (.zeroWidth .wordStart, rest)
  | '>' :: rest => some (.zeroWidth .wordStop, rest)
  | c :: rest =>
    match escapeClass? c, controlChar? c with
    | some accepts, _ => some (.cls accepts, rest)
    | none, some d => some (.char d, rest)
    | none, none => if isEscapable c then some (.char c, rest) else none

/-- An operation between two classes in brackets. -/
inductive ClassOperation
  | meet
  | difference
  | symmetric
deriving DecidableEq, Repr

/-- Combines two classes. -/
def ClassOperation.apply : ClassOperation → (Char → Bool) → (Char → Bool) → Char → Bool
  | meet, f, g => fun c => f c && g c
  | difference, f, g => fun c => f c && !g c
  | symmetric, f, g => fun c => f c != g c

/-- A class in brackets, as far as it was read. -/
structure OpenClass where
  /-- The operand before the last operation, and that operation. -/
  pending : Option ((Char → Bool) × ClassOperation) := none
  /-- The operand that is being read. -/
  here : Char → Bool := fun _ => false

namespace OpenClass

/-- Adds characters to the operand that is being read. -/
def add (o : OpenClass) (accepts : Char → Bool) : OpenClass :=
  { o with here := fun c => o.here c || accepts c }

/-- The class, with its operation carried out. -/
def close (o : OpenClass) : Char → Bool :=
  match o.pending with
  | some (left, operation) => operation.apply left o.here
  | none => o.here

/-- Begins the operand behind an operation. -/
def operate (o : OpenClass) (operation : ClassOperation) : OpenClass :=
  { pending := some (o.close, operation) }

end OpenClass

/-- Reads one end of a range: a character, or an escape of one. -/
def readBound? : List Char → Option (Char × List Char)
  | '\\' :: rest =>
    match readEscape? rest with
    | some (.char c, rest) => some (c, rest)
    | _ => none
  | c :: rest => some (c, rest)
  | [] => none

/-- Reads the name of a class between colons, when one stands here. -/
def readNamed? (s : List Char) : Option ((Char → Bool) × List Char) := do
  let (negated, rest) := match s with
    | '^' :: rest => (true, rest)
    | all => (false, all)
  let name := rest.takeWhile (·.isAlpha)
  let accepts ← namedClass? (String.ofList name)
  let rest ← ":]".toList.isPrefixOf? (rest.drop name.length)
  return (fun c => accepts c != negated, rest)

/-- Adds a character, or the range that begins with it. -/
def addFrom? (modes : Modes) (o : OpenClass) (c : Char) (rest : List Char) :
    Option (OpenClass × List Char) :=
  match rest with
  | '-' :: ']' :: _ | '-' :: '-' :: _ => some (o.add (literalClass modes c), rest)
  | '-' :: rest =>
    match readBound? rest with
    | some (d, rest) => if c ≤ d then some (o.add (rangeClass modes c d), rest) else none
    | none => none
  | _ => some (o.add (literalClass modes c), rest)

/-- What precedes the items of a class: a negation, and brackets and dashes that stand for
themselves. -/
def openClass (s : List Char) : Bool × OpenClass × List Char :=
  let (negated, rest) := match s with
    | '^' :: rest => (true, rest)
    | all => (false, all)
  let dashes := rest.takeWhile (· == '-')
  let rest := rest.drop dashes.length
  let o : OpenClass := if dashes.isEmpty then {} else ({} : OpenClass).add (· == '-')
  match rest with
  | ']' :: rest => if dashes.isEmpty then (negated, o.add (· == ']'), rest) else (negated, o, ']' :: rest)
  | rest => (negated, o, rest)

mutual

/-- Reads a class behind its opening bracket. -/
def readClass? (fuel : Nat) (modes : Modes) (s : List Char) : Option ((Char → Bool) × List Char) :=
  match fuel with
  | 0 => none
  | fuel + 1 =>
    let (negated, o, rest) := openClass s
    (readClassItems? fuel modes o rest).map fun (accepts, rest) =>
      (fun c => accepts c != negated, rest)

/-- Reads the items of a class up to its closing bracket. -/
def readClassItems? (fuel : Nat) (modes : Modes) (o : OpenClass) (s : List Char) :
    Option ((Char → Bool) × List Char) :=
  match fuel with
  | 0 => none
  | fuel + 1 =>
    match s with
    | [] => none
    | ']' :: rest => some (o.close, rest)
    | '&' :: '&' :: rest => readClassItems? fuel modes (o.operate .meet) rest
    | '-' :: '-' :: rest => readClassItems? fuel modes (o.operate .difference) rest
    | '~' :: '~' :: rest => readClassItems? fuel modes (o.operate .symmetric) rest
    | '[' :: rest =>
      let named := match rest with
        | ':' :: name => readNamed? name
        | _ => none
      match named.or (readClass? fuel modes rest) with
      | some (accepts, rest) => readClassItems? fuel modes (o.add accepts) rest
      | none => none
    | '\\' :: rest =>
      match readEscape? rest with
      | some (.cls accepts, rest) =>
        match rest with
        | '-' :: ']' :: _ | '-' :: '-' :: _ => readClassItems? fuel modes (o.add accepts) rest
        | '-' :: _ => none
        | rest => readClassItems? fuel modes (o.add accepts) rest
      | some (.char c, rest) =>
        match addFrom? modes o c rest with
        | some (o, rest) => readClassItems? fuel modes o rest
        | none => none
      | _ => none
    | c :: rest =>
      match addFrom? modes o c rest with
      | some (o, rest) => readClassItems? fuel modes o rest
      | none => none

end

/-! ## Repetitions -/

/-- How often something is repeated: at least, and at most. -/
structure Repetition where
  least : Nat
  most : Option Nat
deriving DecidableEq, Repr

/-- Repeats a pattern. -/
def Repetition.apply (r : Repetition) (p : Pattern) : Pattern :=
  match r.most with
  | none => .seq (.times r.least p) (.many p)
  | some most => .seq (.times r.least p) (.upTo (most - r.least) p)

/-- Reads a number in decimal between blanks. -/
def readCount? (s : List Char) : Option (Nat × List Char) :=
  let s := s.dropWhile Text.isBlank
  let digits := s.takeWhile (·.isDigit)
  (Text.numeral? Text.bound32 (String.ofList digits)).map
    (·, (s.drop digits.length).dropWhile Text.isBlank)

/-- Reads the bounds of a repetition behind the opening brace. -/
def readBounds? (s : List Char) : Option (Repetition × List Char) :=
  match readCount? s with
  | some (least, '\x7d' :: rest) => some (⟨least, some least⟩, rest)
  | some (least, ',' :: '\x7d' :: rest) => some (⟨least, none⟩, rest)
  | some (least, ',' :: rest) =>
    match readCount? rest with
    | some (most, '\x7d' :: rest) => if least ≤ most then some (⟨least, some most⟩, rest) else none
    | _ => none
  | _ => none

/-- Reads a repetition, if one stands here: outside, that there is one; inside, what it is unless
it is malformed. The mark that makes it lazy is read with it. -/
def readRepetition? (s : List Char) : Option (Option (Repetition × List Char)) :=
  let lazily : List Char → List Char
    | '?' :: rest => rest
    | rest => rest
  match s with
  | '*' :: rest => some (some (⟨0, none⟩, lazily rest))
  | '+' :: rest => some (some (⟨1, none⟩, lazily rest))
  | '?' :: rest => some (some (⟨0, some 1⟩, lazily rest))
  | '\x7b' :: rest => some ((readBounds? rest).map fun (r, rest) => (r, lazily rest))
  | _ => none

/-! ## Groups -/

/-- Switches modes by letters; behind a dash they are switched off. -/
def switchModes? (modes : Modes) (on : Bool) : List Char → Option Modes
  | [] => some modes
  | 'i' :: rest => switchModes? { modes with ignoreCase := on } on rest
  | 'm' :: rest => switchModes? { modes with multiLine := on } on rest
  | 's' :: rest => switchModes? { modes with dotAll := on } on rest
  | 'x' :: rest => switchModes? { modes with verbose := on } on rest
  | 'U' :: rest => switchModes? modes on rest
  | 'u' :: rest => if on then switchModes? modes on rest else none
  | '-' :: rest => if on && !rest.isEmpty then switchModes? modes false rest else none
  | _ => none

/-- What stands behind an opening parenthesis. -/
inductive GroupHead
  /-- A group, read under these modes. -/
  | group (modes : Modes)
  /-- New modes for the rest of the group around. -/
  | modes (modes : Modes)

/-- A character of the name of a group. -/
def isNameChar (c : Char) : Bool :=
  Text.isWord c || c == '.' || c == '[' || c == ']'

/-- Reads the name of a group up to the closing angle bracket. -/
def readName? (s : List Char) : Option (List Char) :=
  let name := s.takeWhile isNameChar
  match name, s.drop name.length with
  | first :: _, '>' :: rest =>
    if first == '_' || (Text.isWord first && !Text.isDigit first) then some rest else none
  | _, _ => none

/-- Reads what stands behind an opening parenthesis. -/
def readGroupHead? (modes : Modes) : List Char → Option (GroupHead × List Char)
  | '?' :: 'P' :: '<' :: rest => (readName? rest).map fun rest => (.group modes, rest)
  | '?' :: '<' :: rest => (readName? rest).map fun rest => (.group modes, rest)
  | '?' :: rest =>
    let letters := rest.takeWhile fun c => c != ':' && c != ')'
    match switchModes? modes true letters, rest.drop letters.length with
    | some modes, ':' :: rest => some (.group modes, rest)
    | some modes, ')' :: rest => if letters.isEmpty then none else some (.modes modes, rest)
    | _, _ => none
  | rest => some (.group modes, rest)

/-- A group as far as it was read. -/
structure OpenGroup where
  modes : Modes
  /-- The alternatives before the last bar. -/
  alternatives : Option Pattern := none
  /-- The items before the last one. -/
  items : Pattern := .empty
  /-- The last item, if it can be repeated. -/
  last : Option Pattern := none

namespace OpenGroup

/-- The alternative that is being read. -/
def current (g : OpenGroup) : Pattern :=
  match g.last with
  | some p => .seq g.items p
  | none => g.items

/-- Appends an item. -/
def push (g : OpenGroup) (p : Pattern) : OpenGroup :=
  { g with items := g.current, last := some p }

/-- The pattern of the group. -/
def close (g : OpenGroup) : Pattern :=
  match g.alternatives with
  | some p => .either p g.current
  | none => g.current

/-- Begins the next alternative. -/
def bar (g : OpenGroup) : OpenGroup :=
  { modes := g.modes, alternatives := some g.close }

/-- Switches the modes; there is nothing to repeat then. -/
def switchTo (g : OpenGroup) (modes : Modes) : OpenGroup :=
  { g with modes := modes, items := g.current, last := none }

end OpenGroup

/-- The pattern of an escape. -/
def Escape.pattern (modes : Modes) : Escape → Pattern
  | char c => .one (literalClass modes c)
  | cls accepts => .one accepts
  | zeroWidth a => .anchor a

/-- The pattern of a character that is not part of a larger item. -/
def charPattern (modes : Modes) (c : Char) : Pattern :=
  match c with
  | '.' => .one fun d => modes.dotAll || d != '\n'
  | '^' => .anchor (if modes.multiLine then .lineStart else .start)
  | '$' => .anchor (if modes.multiLine then .lineStop else .stop)
  | c => .one (literalClass modes c)

/-- Reads the items of a group up to its end, which is left unread. -/
def readGroup? (fuel : Nat) (g : OpenGroup) (s : List Char) : Option (Pattern × List Char) :=
  match fuel with
  | 0 => none
  | fuel + 1 =>
    match readRepetition? s with
    | some (some (r, rest)) =>
      match g.last with
      | some p => readGroup? fuel { g with last := some (r.apply p) } rest
      | none => none
    | some none => none
    | none =>
      match s with
      | [] => some (g.close, [])
      | ')' :: rest => some (g.close, ')' :: rest)
      | '|' :: rest => readGroup? fuel g.bar rest
      | '(' :: rest =>
        match readGroupHead? g.modes rest with
        | some (.modes modes, rest) => readGroup? fuel (g.switchTo modes) rest
        | some (.group modes, rest) =>
          match readGroup? fuel { modes } rest with
          | some (p, ')' :: rest) => readGroup? fuel (g.push p) rest
          | _ => none
        | none => none
      | '[' :: rest =>
        match readClass? (2 * rest.length + 2) g.modes rest with
        | some (accepts, rest) => readGroup? fuel (g.push (.one accepts)) rest
        | none => none
      | '\\' :: rest =>
        match readEscape? rest with
        | some (e, rest) => readGroup? fuel (g.push (e.pattern g.modes)) rest
        | none => none
      | c :: rest =>
        if g.modes.verbose && Text.isBlank c then readGroup? fuel g rest
        else if g.modes.verbose && c == '#' then
          readGroup? fuel g (rest.dropWhile (· ≠ '\n'))
        else readGroup? fuel (g.push (charPattern g.modes c)) rest

/-- Reads a pattern. -/
def ofText? (s : String) : Option Pattern :=
  let chars := s.toList
  match readGroup? (2 * chars.length + 2) { modes := {} } chars with
  | some (p, []) => some p
  | _ => none

end ChrootScan.Pattern
