/-!
# Decimal numerals

Reading unsigned numerals of bounded size, the only form in which numbers reach the program from
its surroundings.
-/

namespace ChrootScan.Text

/-- The numbers that fit into 32 bits lie below this one. -/
def bound32 : Nat := 0x100000000

/-- The numbers that fit into 64 bits lie below this one. -/
def bound64 : Nat := 0x10000000000000000

/-- The value of a digit `0` to `9`. -/
def digitValue? (c : Char) : Option Nat :=
  if '0' ≤ c ∧ c ≤ '9' then some (c.toNat - '0'.toNat) else none

/-- The number that digits stand for, the most significant first, on top of `acc`. -/
def digitsValue? (acc : Nat) : List Char → Option Nat
  | [] => some acc
  | c :: rest => (digitValue? c).bind fun d => digitsValue? (acc * 10 + d) rest

/-- Reads an unsigned numeral below `bound`: at least one digit, after at most one plus sign. -/
def numeral? (bound : Nat) (s : String) : Option Nat :=
  let digits :=
    match s.toList with
    | '+' :: rest => rest
    | all => all
  if digits.isEmpty then none
  else
    match digitsValue? 0 digits with
    | some n => if n < bound then some n else none
    | none => none

/-- The upper-case hexadecimal digits of `n`, at least `width` of them. -/
def hexUpper (width n : Nat) : String :=
  let digits := (Nat.toDigits 16 n).map Char.toUpper
  String.ofList (List.replicate (width - digits.length) '0' ++ digits)

end ChrootScan.Text
