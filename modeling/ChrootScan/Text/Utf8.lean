/-!
# UTF-8

Text as bytes and bytes as text: the strict reading refuses what is not UTF-8, the lenient one puts
`U+FFFD` for every maximal piece that begins like a character and does not end like one.
-/

namespace ChrootScan.Text

/-- The bytes of a text. -/
def encode (s : String) : ByteArray :=
  s.toUTF8

/-- The text of bytes that are UTF-8. -/
def decode? (bytes : ByteArray) : Option String :=
  String.fromUTF8? bytes

/-- The text in which every byte is the character of that number. -/
def decodeLatin1 (bytes : ByteArray) : String :=
  String.ofList (bytes.toList.map fun b => Char.ofNat b.toNat)

def isContinuation (b : UInt8) : Bool :=
  0x80 ≤ b && b ≤ 0xBF

/-- The second bytes that may follow a first byte of a longer sequence. -/
def allowsSecond (first second : UInt8) : Bool :=
  if first == 0xE0 then 0xA0 ≤ second && second ≤ 0xBF
  else if first == 0xED then 0x80 ≤ second && second ≤ 0x9F
  else if first == 0xF0 then 0x90 ≤ second && second ≤ 0xBF
  else if first == 0xF4 then 0x80 ≤ second && second ≤ 0x8F
  else isContinuation second

/-- The number of bytes that a sequence with this first byte has; none for a byte that begins no
sequence. -/
def sequenceLength? (first : UInt8) : Option Nat :=
  if first < 0x80 then some 1
  else if 0xC2 ≤ first && first ≤ 0xDF then some 2
  else if 0xE0 ≤ first && first ≤ 0xEF then some 3
  else if 0xF0 ≤ first && first ≤ 0xF4 then some 4
  else none

/-- The bits that the later bytes of a sequence add to the value so far. -/
def continueValue (value : Nat) (bytes : List UInt8) : Nat :=
  bytes.foldl (fun v b => v * 64 + b.toNat % 64) value

/-- The bits of a first byte that belong to the value of a sequence of `length` bytes. -/
def firstValue (length : Nat) (first : UInt8) : Nat :=
  match length with
  | 1 => first.toNat
  | 2 => first.toNat % 32
  | 3 => first.toNat % 16
  | _ => first.toNat % 8

/-- How many of the bytes after a first byte go with it: all that the sequence needs, or those
before the first that does not fit. -/
def fittingBytes (first : UInt8) (need : Nat) (rest : List UInt8) : List UInt8 :=
  match rest with
  | [] => []
  | second :: more =>
    if need = 0 then []
    else if allowsSecond first second then
      second :: (more.take (need - 1)).takeWhile isContinuation
    else []

/-- The lenient reading; `fuel` bounds the number of bytes. -/
def decodeLossyFrom : Nat → List UInt8 → List Char
  | 0, _ => []
  | _, [] => []
  | fuel + 1, first :: rest =>
    match sequenceLength? first with
    | none => Char.ofNat 0xFFFD :: decodeLossyFrom fuel rest
    | some length =>
      let later := fittingBytes first (length - 1) rest
      let c :=
        if later.length + 1 = length then
          Char.ofNat (continueValue (firstValue length first) later)
        else Char.ofNat 0xFFFD
      c :: decodeLossyFrom fuel (rest.drop later.length)

/-- The text of bytes, with `U+FFFD` for what is not UTF-8. -/
def decodeLossy (bytes : ByteArray) : String :=
  match decode? bytes with
  | some s => s
  | none => String.ofList (decodeLossyFrom bytes.size bytes.toList)

end ChrootScan.Text
