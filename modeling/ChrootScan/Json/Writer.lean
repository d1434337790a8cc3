import ChrootScan.Json
import ChrootScan.Text.Decimal
import ChrootScan.Text.Fields
import ChrootScan.Text.ShortestFloat

/-!
# Writing JSON

The compact form has no white space, the indented one puts every item and member on a line of its
own. Floats are written with the fewest digits that read back, with a point or an exponent.
-/

namespace ChrootScan.Json

/-- The digits of a decimal without zeros at their end. -/
def significantDigits (d : Text.Decimal) : List Char :=
  let digits := Nat.toDigits 10 d.digits
  let trimmed := (digits.reverse.dropWhile (· == '0')).reverse
  if trimmed.isEmpty then ['0'] else trimmed

/-- The exponent of the scientific form. -/
def exponentText (e : Int) : String :=
  "e" ++ (if e < 0 then "-" else "+") ++ toString e.natAbs

/-- A positive decimal: positional from `0.00001` up to sixteen digits before the point, and
scientific beyond. -/
def decimalText (d : Text.Decimal) : String :=
  let digits := significantDigits d
  let n := digits.length
  if 0 < d.point ∧ d.point ≤ 16 then
    let point := d.point.toNat
    if n ≤ point then String.ofList (digits ++ List.replicate (point - n) '0') ++ ".0"
    else String.ofList (digits.take point) ++ "." ++ String.ofList (digits.drop point)
  else if -5 < d.point ∧ d.point ≤ 0 then
    "0." ++ String.ofList (List.replicate (-d.point).toNat '0' ++ digits)
  else
    String.ofList (digits.take 1) ++ (if n = 1 then "" else "." ++ String.ofList (digits.drop 1))
      ++ exponentText (d.point - 1)

/-- A finite float. -/
def floatText (f : Float) : String :=
  let sign := if f.toBits.toNat < Text.bound64 / 2 then "" else "-"
  let b := Text.Binary.ofFloat f
  sign ++ (if b.mantissa = 0 then "0.0" else decimalText (Text.shortest b))

def numberText : JsonNumber → String
  | .natural n => toString n
  | .negative n => "-" ++ toString n
  | .float f => floatText f

/-- One character inside a string. -/
def escapeChar (c : Char) : List Char :=
  if c = '"' then ['\\', '"']
  else if c = '\\' then ['\\', '\\']
  else if c = '\x08' then ['\\', 'b']
  else if c = '\x0c' then ['\\', 'f']
  else if c = '\n' then ['\\', 'n']
  else if c = '\r' then ['\\', 'r']
  else if c = '\t' then ['\\', 't']
  else if c.toNat < 0x20 then
    ['\\', 'u', '0', '0'] ++ (if c.toNat < 16 then ['0'] else []) ++ Nat.toDigits 16 c.toNat
  else [c]

def stringText (s : String) : String :=
  String.ofList ('"' :: s.toList.flatMap escapeChar ++ ['"'])

mutual

/-- The compact form of a value. -/
def compact : Json → String
  | null => "null"
  | bool b => if b then "true" else "false"
  | number n => numberText n
  | string s => stringText s
  | array items => "[" ++ Text.join "," (compactItems items) ++ "]"
  | object members => "\x7b" ++ Text.join "," (compactMembers members) ++ "\x7d"

def compactItems : List Json → List String
  | [] => []
  | item :: rest => compact item :: compactItems rest

def compactMembers : List (String × Json) → List String
  | [] => []
  | (name, value) :: rest => (stringText name ++ ":" ++ compact value) :: compactMembers rest

end

/-- Lines between brackets, two spaces further in than `depth`. -/
def block (opening closing : String) (depth : Nat) (lines : List String) : String :=
  let indent (n : Nat) : String := "\n" ++ String.ofList (List.replicate (2 * n) ' ')
  if lines.isEmpty then opening ++ closing
  else
    opening ++ Text.join "," (lines.map (indent (depth + 1) ++ ·)) ++ indent depth ++ closing

/-- An object whose members stay in the given order, in the indented form. -/
def indentedFields (depth : Nat) (fields : List (String × String)) : String :=
  block "\x7b" "\x7d" depth (fields.map fun (name, text) => stringText name ++ ": " ++ text)

end ChrootScan.Json
