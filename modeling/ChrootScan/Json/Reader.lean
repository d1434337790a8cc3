import ChrootScan.Json
import ChrootScan.Text.Decimal
import ChrootScan.Text.Utf8

/-!
# Reading JSON

A document is one value with white space around it. Values nest less than 128 deep. Integers that
need more than 64 bits, and numbers with a fraction or an exponent, become floats: their first digits,
as many as fit into 64 bits, times or through a power of ten.
-/

namespace ChrootScan.Json

/-- What is left of the input. -/
abbrev Input := List Char

def isSpace (c : Char) : Bool :=
  c == ' ' || c == '\n' || c == '\t' || c == '\r'

def skipSpace (s : Input) : Input :=
  s.dropWhile isSpace

def isDigit (c : Char) : Bool :=
  '0' ≤ c && c ≤ '9'

/-! ## Numbers -/

/-- A power of ten as a float. -/
def floatPower (n : Nat) : Float :=
  Float.ofScientific 1 false n

/-- `significand · 10 ^ exponent`, by one product or quotient of floats, or by several where the
exponent lies below all powers of ten that floats have. None if the number is too large. -/
def floatOfParts? (significand : Nat) (exponent : Int) : Option Float :=
  go (Float.ofNat significand) exponent 20
where
  /-- Divides by the largest power of ten until the rest of the exponent is in reach. -/
  go (f : Float) (exponent : Int) : Nat → Option Float
    | 0 => some f
    | fuel + 1 =>
      if exponent.natAbs ≤ 308 then
        if 0 ≤ exponent then
          let scaled := f * floatPower exponent.natAbs
          if scaled.isInf then none else some scaled
        else some (f / floatPower exponent.natAbs)
      else if f == 0.0 then some f
      else if 0 ≤ exponent then none
      else go (f / floatPower 308) (exponent + 308) fuel

/-- Reads digits onto a significand while it fits into 64 bits; the answer says how many digits were
taken, and whether a further one did not fit. -/
def takeDigits (significand taken : Nat) : Input → Nat × Nat × Bool × Input
  | [] => (significand, taken, false, [])
  | c :: rest =>
    if isDigit c then
      let grown := significand * 10 + (c.toNat - '0'.toNat)
      if grown < Text.bound64 then takeDigits grown (taken + 1) rest
      else (significand, taken, true, c :: rest)
    else (significand, taken, false, c :: rest)

/-- Reads the digits of an exponent; more of them than `limit` allows count as `limit`. -/
def exponentValue (limit : Nat) (digits : List Char) : Nat :=
  digits.foldl (fun n c => min limit (n * 10 + (c.toNat - '0'.toNat))) 0

/-- The largest exponent that is told from larger ones. -/
def exponentLimit : Nat := Text.bound32 / 2

/-- Reads the exponent behind its mark and gives the float. -/
def readExponent? (significand : Nat) (start : Int) (s : Input) : Option (Float × Input) :=
  let (negative, s) :=
    match s with
    | '+' :: rest => (false, rest)
    | '-' :: rest => (true, rest)
    | s => (false, s)
  let digits := s.takeWhile isDigit
  let rest := s.dropWhile isDigit
  if digits.isEmpty then none
  else
    let value := exponentValue exponentLimit digits
    if value = exponentLimit then
      if significand ≠ 0 && !negative then none else some (0.0, rest)
    else
      let exponent := if negative then start - value else start + value
      (floatOfParts? significand exponent).map fun f => (f, rest)

/-- Ends a float: an exponent may follow. -/
def finishFloat? (significand : Nat) (exponent : Int) (s : Input) : Option (Float × Input) :=
  match s with
  | 'e' :: rest | 'E' :: rest => readExponent? significand exponent rest
  | s => (floatOfParts? significand exponent).map fun f => (f, s)

/-- Reads the fraction behind the point and gives the float. -/
def readFraction? (significand : Nat) (start : Int) (s : Input) : Option (Float × Input) :=
  let (grown, taken, full, rest) := takeDigits significand 0 s
  if full then finishFloat? grown (start - taken) (rest.dropWhile isDigit)
  else if taken = 0 then none
  else finishFloat? grown (start - taken) rest

/-- The number behind a sign, as a float if it is none of the integers of 64 bits. -/
def signed (negative : Bool) (f : Float) : JsonNumber :=
  .float (if negative then -f else f)

/-- Reads a number behind its sign. -/
def readNumber? (negative : Bool) (s : Input) : Option (JsonNumber × Input) :=
  let (significand, taken, full, rest) := takeDigits 0 0 s
  if taken = 0 then none
  else if s.head? = some '0' && taken > 1 then none
  else if full then
    let more := rest.takeWhile isDigit
    let rest := rest.dropWhile isDigit
    let float :=
      match rest with
      | '.' :: rest => readFraction? significand more.length rest
      | rest => finishFloat? significand more.length rest
    float.map fun (f, rest) => (signed negative f, rest)
  else
    match rest with
    | '.' :: rest =>
      (readFraction? significand 0 rest).map fun (f, rest) => (signed negative f, rest)
    | 'e' :: rest | 'E' :: rest =>
      (readExponent? significand 0 rest).map fun (f, rest) => (signed negative f, rest)
    | rest =>
      if !negative then some (.natural significand, rest)
      else if significand = 0 || significand > Text.bound64 / 2 then
        some (signed true (Float.ofNat significand), rest)
      else some (.negative significand, rest)

/-! ## Strings -/

/-- The value of a hexadecimal digit. -/
def hexValue? (c : Char) : Option Nat :=
  if '0' ≤ c ∧ c ≤ '9' then some (c.toNat - '0'.toNat)
  else if 'a' ≤ c ∧ c ≤ 'f' then some (c.toNat - 'a'.toNat + 10)
  else if 'A' ≤ c ∧ c ≤ 'F' then some (c.toNat - 'A'.toNat + 10)
  else none

/-- The number of four hexadecimal digits. -/
def hex4? (a b c d : Char) : Option Nat := do
  let a ← hexValue? a
  let b ← hexValue? b
  let c ← hexValue? c
  let d ← hexValue? d
  pure (((a * 16 + b) * 16 + c) * 16 + d)

/-- The character behind a backslash with a single letter. -/
def simpleEscape? : Char → Option Char
  | '"' => some '"'
  | '\\' => some '\\'
  | '/' => some '/'
  | 'b' => some '\x08'
  | 'f' => some '\x0c'
  | 'n' => some '\n'
  | 'r' => some '\r'
  | 't' => some '\t'
  | _ => none

/-- Reads a string behind its opening quote. A character beyond 16 bits is written as two escapes,
and neither half stands alone. -/
def readString? (acc : List Char) : Input → Option (String × Input)
  | '"' :: rest => some (String.ofList acc.reverse, rest)
  | '\\' :: 'u' :: a :: b :: c :: d :: rest =>
    match hex4? a b c d with
    | none => none
    | some n =>
      if 0xD800 ≤ n ∧ n ≤ 0xDBFF then
        match rest with
        | '\\' :: 'u' :: a :: b :: c :: d :: rest =>
          match hex4? a b c d with
          | none => none
          | some m =>
            if 0xDC00 ≤ m ∧ m ≤ 0xDFFF then
              readString?
                (Char.ofNat (0x10000 + (n - 0xD800) * 0x400 + (m - 0xDC00)) :: acc) rest
            else none
        | _ => none
      else if 0xDC00 ≤ n ∧ n ≤ 0xDFFF then none
      else readString? (Char.ofNat n :: acc) rest
  | '\\' :: e :: rest =>
    match simpleEscape? e with
    | some c => readString? (c :: acc) rest
    | none => none
  | c :: rest => if c.toNat < 0x20 || c = '\\' then none else readString? (c :: acc) rest
  | [] => none

/-! ## Values -/

/-- What follows a literal, when the input starts with it. -/
def afterLiteral? (literal : String) (s : Input) : Option Input :=
  literal.toList.isPrefixOf? s

mutual

/-- Reads a value that nests at most `depth` deep; `fuel` bounds the number of values. -/
def readValue? (fuel depth : Nat) (s : Input) : Option (Json × Input) :=
  match fuel with
  | 0 => none
  | fuel + 1 =>
    match skipSpace s with
    | '"' :: rest => (readString? [] rest).map fun (text, rest) => (.string text, rest)
    | '[' :: rest =>
      match depth with
      | 0 | 1 => none
      | depth + 1 =>
        match skipSpace rest with
        | ']' :: rest => some (.array [], rest)
        | rest => (readItems? fuel depth [] rest).map fun (items, rest) => (.array items, rest)
    | '{' :: rest =>
      match depth with
      | 0 | 1 => none
      | depth + 1 =>
        match skipSpace rest with
        | '}' :: rest => some (.object [], rest)
        | rest =>
          (readMembers? fuel depth [] rest).map fun (members, rest) => (.object members, rest)
    | '-' :: rest => (readNumber? true rest).map fun (n, rest) => (.number n, rest)
    | 'n' :: rest => (afterLiteral? "ull" rest).map fun rest => (.null, rest)
    | 't' :: rest => (afterLiteral? "rue" rest).map fun rest => (.bool true, rest)
    | 'f' :: rest => (afterLiteral? "alse" rest).map fun rest => (.bool false, rest)
    | rest => (readNumber? false rest).map fun (n, rest) => (.number n, rest)

/-- Reads the items of an array up to its closing bracket. -/
def readItems? (fuel depth : Nat) (acc : List Json) (s : Input) : Option (List Json × Input) :=
  match fuel with
  | 0 => none
  | fuel + 1 =>
    match readValue? fuel depth s with
    | none => none
    | some (value, rest) =>
      match skipSpace rest with
      | ',' :: rest => readItems? fuel depth (value :: acc) rest
      | ']' :: rest => some ((value :: acc).reverse, rest)
      | _ => none

/-- Reads the members of an object up to its closing brace; a later one replaces an earlier one. -/
def readMembers? (fuel depth : Nat) (acc : List (String × Json)) (s : Input) :
    Option (List (String × Json) × Input) :=
  match fuel with
  | 0 => none
  | fuel + 1 =>
    match skipSpace s with
    | '"' :: rest =>
      match readString? [] rest with
      | none => none
      | some (name, rest) =>
        match skipSpace rest with
        | ':' :: rest =>
          match readValue? fuel depth rest with
          | none => none
          | some (value, rest) =>
            let members := insertMember name value acc
            match skipSpace rest with
            | ',' :: rest => readMembers? fuel depth members rest
            | '}' :: rest => some (members, rest)
            | _ => none
        | _ => none
    | _ => none

end

/-- How deep values may nest, plus one. -/
def maxDepth : Nat := 128

/-- The value of a document. -/
def parse? (s : String) : Option Json :=
  let input := s.toList
  match readValue? (2 * input.length + 2) maxDepth input with
  | some (value, rest) => if (skipSpace rest).isEmpty then some value else none
  | none => none

/-- The value of a document in UTF-8. -/
def parseBytes? (bytes : ByteArray) : Option Json :=
  (Text.decode? bytes).bind parse?

end ChrootScan.Json
