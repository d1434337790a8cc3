import ChrootScan.Archive.Gzip
import ChrootScan.Text.Blank
import ChrootScan.Text.Utf8

/-!
# Tar archives

An archive is a sequence of members, each a header of 512 bytes and its content filled up to a
multiple of 512; a block of zeros ends it. Names that do not fit into a header travel in a member of
their own before it.
-/

namespace ChrootScan.Tar

/-- What a member unpacks to. -/
inductive Kind
  | regular
  | directory
  | symlink
  | hardLink
  | other
deriving DecidableEq, Repr

/-- A file, directory or link in an archive. -/
structure Member where
  name : String
  kind : Kind := .regular
  mode : Nat := 0o644
  target : String := ""
  content : ByteArray := .empty
  /-- The content is all there. -/
  complete : Bool := true

/-- Why an archive cannot be read on. -/
inductive ReadError
  /-- The stream that it comes from cannot be read on. -/
  | stream (fault : Gzip.Fault)
  /-- It ends within a header. -/
  | cutHeader
  /-- It ends within the content of a member. -/
  | cutContent
  | wrongChecksum
  /-- A field of the header of the named member is no number. -/
  | notANumber (text field name : String)
deriving DecidableEq, Repr

def ReadError.message : ReadError → String
  | stream fault => fault.message
  | cutHeader => "failed to read entire block"
  | cutContent => "unexpected EOF during skip"
  | wrongChecksum => "archive header checksum mismatch"
  | notANumber text field name =>
    "numeric field was not a number: " ++ text ++ " when getting " ++ field ++ " for " ++ name

def blockSize : Nat := 512

/-! ## Reading -/

/-- The text of a field that ends at its first zero byte. -/
def fieldText (bytes : List UInt8) : String :=
  Text.decodeLossy ⟨(bytes.takeWhile (· ≠ 0)).toArray⟩

/-- The value of a field of octal digits, blanks around them not counted. -/
def fieldNumber? (bytes : List UInt8) : Option Nat :=
  let digits := (Text.trim (fieldText bytes)).toList
  if digits.isEmpty then none
  else
    digits.foldl (fun acc c => acc.bind fun n =>
      if '0' ≤ c ∧ c ≤ '7' then some (n * 8 + (c.toNat - '0'.toNat)) else none) (some 0)

/-- The part of a header at an offset. -/
def part (header : List UInt8) (offset length : Nat) : List UInt8 :=
  (header.drop offset).take length

/-- The sum of the bytes of a header, its checksum field taken as spaces. -/
def checksum (header : List UInt8) : Nat :=
  let sum (bytes : List UInt8) : Nat := bytes.foldl (fun n b => n + b.toNat) 0
  sum (header.take 148) + 8 * 32 + sum (header.drop 156)

/-- The kind behind a type flag. -/
def kindOf (flag : UInt8) : Kind :=
  if flag == 48 || flag == 0 then .regular
  else if flag == 53 then .directory
  else if flag == 50 then .symlink
  else if flag == 49 then .hardLink
  else .other

/-- The `key=value` records of an extended header; each starts with its own length. -/
def extendedRecords (fuel : Nat) (bytes : List UInt8) : List (String × String) :=
  match fuel with
  | 0 => []
  | fuel + 1 =>
    match fieldNumber10? (bytes.takeWhile (· ≠ 32)) with
    | none => []
    | some length =>
      if length = 0 || bytes.isEmpty then []
      else
        let record := Text.decodeLossy
          ⟨(((bytes.take (length - 1)).dropWhile (· ≠ 32)).drop 1).toArray⟩
        let chars := record.toList
        (String.ofList (chars.takeWhile (· ≠ '=')),
            String.ofList ((chars.dropWhile (· ≠ '=')).drop 1))
          :: extendedRecords fuel (bytes.drop length)
where
  /-- The value of decimal digits. -/
  fieldNumber10? (bytes : List UInt8) : Option Nat :=
    bytes.foldl (fun acc b => acc.bind fun n =>
      if 48 ≤ b && b ≤ 57 then some (n * 10 + (b.toNat - 48)) else none) (some 0)

/-- Names announced for the next member. -/
structure Announced where
  name : Option String := none
  target : Option String := none

/-- The name of a member: its own field behind the one for leading directories. -/
def headerName (header : List UInt8) : String :=
  let name := fieldText (part header 0 100)
  let isUstar := part header 257 6 == [117, 115, 116, 97, 114, 0]
  let lead := if isUstar then fieldText (part header 345 155) else ""
  if lead.isEmpty then name else lead ++ "/" ++ name

/-- The value of a field of a header. -/
def number (header : List UInt8) (field : String) (bytes : List UInt8) : Except ReadError Nat :=
  match fieldNumber? bytes with
  | some n => .ok n
  | none => .error (.notANumber (fieldText bytes) field (headerName header))

/-- The size of the content behind a header, whose checksum has to be right. -/
def contentSize (header : List UInt8) : Except ReadError Nat := do
  if (← number header "cksum" (part header 148 8)) ≠ checksum header then .error .wrongChecksum
  number header "size" (part header 124 12)

/-- The member that a header and its content stand for. -/
def memberOf (header : List UInt8) (announced : Announced) (size : Nat) (content : List UInt8) :
    Member :=
  { name := announced.name.getD (headerName header)
    kind := kindOf (header.getD 156 0)
    mode := (fieldNumber? (part header 100 8)).getD 0o644
    target := announced.target.getD (fieldText (part header 157 100))
    content := ⟨content.toArray⟩
    complete := content.length == size }

/-- What a member with the given type flag announces; none if it is a member of its own. -/
def announce? (flag : UInt8) (announced : Announced) (content : List UInt8) : Option Announced :=
  if flag == 76 then some { announced with name := some (fieldText content) }
  else if flag == 75 then some { announced with target := some (fieldText content) }
  else if flag == 120 then
    let records := extendedRecords content.length content
    some
      { name := (records.lookup "path").or announced.name
        target := (records.lookup "linkpath").or announced.target }
  else if flag == 103 then some announced
  else none

/-- Reads members from bytes; `fault` is what is wrong with the stream behind them. `fuel` bounds
the number of blocks. The error, if any, stands behind the members read before it. -/
def readFrom (fault : Option Gzip.Fault) :
    Nat → Announced → List UInt8 → List Member × Option ReadError
  | 0, _, _ => ([], none)
  | fuel + 1, announced, bytes =>
    let header := bytes.take blockSize
    let cut (e : ReadError) : ReadError := (fault.map .stream).getD e
    if header.isEmpty then ([], fault.map .stream)
    else if header.length < blockSize then ([], some (cut .cutHeader))
    else if header.all (· == 0) then ([], none)
    else
      match contentSize header with
      | .error e => ([], some e)
      | .ok size =>
        let body := bytes.drop blockSize
        let padded := (size + blockSize - 1) / blockSize * blockSize
        let content := body.take size
        let (next, members) :=
          match announce? (header.getD 156 0) announced content with
          | some next => (next, [])
          | none => ({}, [memberOf header announced size content])
        if body.length < padded then (members, some (cut .cutContent))
        else
          let (more, e) := readFrom fault fuel next (body.drop padded)
          (members ++ more, e)

/-- The members of an archive, and the error that ended the reading early, if any; `fault` is what
is wrong with the stream behind the bytes. -/
def read (bytes : ByteArray) (fault : Option Gzip.Fault) : List Member × Option ReadError :=
  readFrom fault (bytes.size / blockSize + 1) {} bytes.toList

/-! ## Writing -/

/-- `bytes` filled up with zeros to `length`, or cut to it. -/
def fill (length : Nat) (bytes : List UInt8) : List UInt8 :=
  bytes.take length ++ List.replicate (length - bytes.length) 0

/-- A number as octal digits in a field of `width` bytes that ends in a zero byte. -/
def octal (width n : Nat) : List UInt8 :=
  let digits := (Nat.toDigits 8 n).map fun c => c.toNat.toUInt8
  List.replicate (width - 1 - digits.length) 48 ++ digits ++ [0]

/-- The type flag of a kind. -/
def Kind.flag : Kind → UInt8
  | .regular => 48
  | .directory => 53
  | .symlink => 50
  | .hardLink => 49
  | .other => 48

/-- A header; its checksum is that of all its other bytes. -/
def header (name target : List UInt8) (mode size : Nat) (flag : UInt8) : List UInt8 :=
  let before := fill 100 name ++ octal 8 mode ++ octal 8 0 ++ octal 8 0 ++ octal 12 size
    ++ octal 12 0
  let after := [flag] ++ fill 100 target ++ [117, 115, 116, 97, 114, 32, 32, 0]
    ++ List.replicate 247 0
  let sum := checksum (before ++ List.replicate 8 32 ++ after)
  before ++ octal 7 sum ++ [32] ++ after

/-- Content filled up to whole blocks. -/
def blocks (content : List UInt8) : List UInt8 :=
  content ++ List.replicate ((blockSize - content.length % blockSize) % blockSize) 0

/-- A member that announces a long name. -/
def announce (flag : UInt8) (name : List UInt8) : List UInt8 :=
  if name.length ≤ 100 then []
  else
    let content := name ++ [0]
    header "././@LongLink".toUTF8.toList [] 0o644 content.length flag ++ blocks content

/-- The bytes of one member. -/
def writeMember (m : Member) : List UInt8 :=
  let name := m.name.toUTF8.toList
  let target := m.target.toUTF8.toList
  announce 75 target ++ announce 76 name
    ++ header name target m.mode m.content.size m.kind.flag ++ blocks m.content.toList

/-- The bytes of an archive. -/
def write (members : List Member) : ByteArray :=
  ⟨(members.flatMap writeMember ++ List.replicate (2 * blockSize) 0).toArray⟩

end ChrootScan.Tar
