/-!
# Gzip

The compressed form of tarballs. Reading undoes all three kinds of blocks: stored, with the fixed
code, and with a code of their own. Writing stores the bytes as they are.
-/

namespace ChrootScan.Gzip

/-- What is wrong with a compressed stream. -/
inductive Fault
  /-- It does not begin like one. -/
  | notCompressed
  /-- It ends within its header or before its checksum. -/
  | endsEarly
  /-- Its blocks cannot be read. -/
  | corrupt
  | wrongChecksum
deriving DecidableEq, Repr

def Fault.message : Fault → String
  | notCompressed => "invalid gzip header"
  | endsEarly => "unexpected end of file"
  | corrupt => "corrupt deflate stream"
  | wrongChecksum => "corrupt gzip stream does not have a matching checksum"

/-! ## Bits -/

/-- The bits of bytes, the lowest bit of each byte first. -/
def bitsOf (bytes : List UInt8) : List Bool :=
  bytes.flatMap fun b => (List.range 8).map fun i => b.toNat.testBit i

/-- The number that `n` bits stand for, the lowest first. -/
def takeNumber? : Nat → List Bool → Option (Nat × List Bool)
  | 0, bits => some (0, bits)
  | _ + 1, [] => none
  | n + 1, b :: bits =>
    (takeNumber? n bits).map fun (value, rest) => (value * 2 + b.toNat, rest)

/-! ## Codes -/

/-- A prefix code: for every length, how many symbols have it, and the symbols in the order of their
code words. -/
structure Code where
  counts : List Nat
  symbols : Array Nat

/-- The code whose symbol `i` has a word of `lengths[i]` bits. -/
def Code.ofLengths (lengths : List Nat) : Code :=
  let indexed := lengths.zipIdx
  let ofLength (n : Nat) : List Nat :=
    indexed.filterMap fun (length, symbol) => if length = n then some symbol else none
  let groups := (List.range 15).map fun i => ofLength (i + 1)
  { counts := groups.map List.length, symbols := groups.flatten.toArray }

/-- Reads one symbol. `code` is the word read so far, `first` the first word of this length, and
`index` the number of symbols with shorter words. -/
def decodeFrom? (symbols : Array Nat) (code first index : Nat) :
    List Nat → List Bool → Option (Nat × List Bool)
  | [], _ => none
  | _, [] => none
  | count :: counts, b :: bits =>
    let code := code + b.toNat
    if code < first + count then
      symbols[index + (code - first)]?.map fun symbol => (symbol, bits)
    else decodeFrom? symbols (code * 2) ((first + count) * 2) (index + count) counts bits

/-- Reads one symbol. -/
def Code.decode? (c : Code) (bits : List Bool) : Option (Nat × List Bool) :=
  decodeFrom? c.symbols 0 0 0 c.counts bits

/-! ## Blocks -/

/-- Lengths of copies: the least length of each symbol, and how many bits are added to it. -/
def copyLengths : Array (Nat × Nat) :=
  #[(3, 0), (4, 0), (5, 0), (6, 0), (7, 0), (8, 0), (9, 0), (10, 0), (11, 1), (13, 1), (15, 1),
    (17, 1), (19, 2), (23, 2), (27, 2), (31, 2), (35, 3), (43, 3), (51, 3), (59, 3), (67, 4),
    (83, 4), (99, 4), (115, 4), (131, 5), (163, 5), (195, 5), (227, 5), (258, 0)]

/-- Distances of copies: the least distance of each symbol, and how many bits are added to it. -/
def copyDistances : Array (Nat × Nat) :=
  #[(1, 0), (2, 0), (3, 0), (4, 0), (5, 1), (7, 1), (9, 2), (13, 2), (17, 3), (25, 3), (33, 4),
    (49, 4), (65, 5), (97, 5), (129, 6), (193, 6), (257, 7), (385, 7), (513, 8), (769, 8),
    (1025, 9), (1537, 9), (2049, 10), (3073, 10), (4097, 11), (6145, 11), (8193, 12), (12289, 12),
    (16385, 13), (24577, 13)]

/-- Repeats `length` bytes that lie `distance` back. -/
def copyBack? (distance : Nat) : Nat → ByteArray → Option ByteArray
  | 0, out => some out
  | n + 1, out =>
    if distance = 0 || distance > out.size then none
    else out[out.size - distance]?.bind fun b => copyBack? distance n (out.push b)

/-- A value from a table and the bits added to it. -/
def extended? (table : Array (Nat × Nat)) (symbol : Nat) (bits : List Bool) :
    Option (Nat × List Bool) :=
  table[symbol]?.bind fun (least, extra) =>
    (takeNumber? extra bits).map fun (n, rest) => (least + n, rest)

/-- The state of reading: the bytes so far, and the bits to come; none after an error. -/
abbrev Progress := ByteArray × Option (List Bool)

/-- Reads the symbols of a block. `fuel` bounds their number. -/
def symbolsFrom (literals distances : Code) : Nat → ByteArray → List Bool → Progress
  | 0, out, _ => (out, none)
  | fuel + 1, out, bits =>
    match literals.decode? bits with
    | none => (out, none)
    | some (symbol, bits) =>
      if symbol < 256 then symbolsFrom literals distances fuel (out.push symbol.toUInt8) bits
      else if symbol = 256 then (out, some bits)
      else
        let copied := do
          let (length, bits) ← extended? copyLengths (symbol - 257) bits
          let (d, bits) ← distances.decode? bits
          let (distance, bits) ← extended? copyDistances d bits
          let out ← copyBack? distance length out
          pure (out, bits)
        match copied with
        | none => (out, none)
        | some (out, bits) => symbolsFrom literals distances fuel out bits

/-- The code lengths of the fixed code. -/
def fixedLengths : List Nat :=
  List.replicate 144 8 ++ List.replicate 112 9 ++ List.replicate 24 7 ++ List.replicate 8 8

/-- The order in which the lengths of the length code are written. -/
def lengthOrder : List Nat :=
  [16, 17, 18, 0, 8, 7, 9, 6, 10, 5, 11, 4, 12, 3, 13, 2, 14, 1, 15]

/-- Reads `n` numbers of three bits. -/
def threeBitNumbers? : Nat → List Bool → Option (List Nat × List Bool)
  | 0, bits => some ([], bits)
  | n + 1, bits => do
    let (value, bits) ← takeNumber? 3 bits
    let (values, bits) ← threeBitNumbers? n bits
    pure (value :: values, bits)

/-- Reads code lengths until there are `total`. -/
def lengthsFrom? (code : Code) (total : Nat) :
    Nat → List Nat → List Bool → Option (List Nat × List Bool)
  | 0, _, _ => none
  | fuel + 1, acc, bits =>
    if acc.length = total then some (acc, bits)
    else if acc.length > total then none
    else do
      let (symbol, bits) ← code.decode? bits
      if symbol < 16 then lengthsFrom? code total fuel (acc ++ [symbol]) bits
      else if symbol = 16 then do
        let last ← acc.getLast?
        let (n, bits) ← takeNumber? 2 bits
        lengthsFrom? code total fuel (acc ++ List.replicate (3 + n) last) bits
      else if symbol = 17 then do
        let (n, bits) ← takeNumber? 3 bits
        lengthsFrom? code total fuel (acc ++ List.replicate (3 + n) 0) bits
      else do
        let (n, bits) ← takeNumber? 7 bits
        lengthsFrom? code total fuel (acc ++ List.replicate (11 + n) 0) bits

/-- Reads the codes that a block brings along. -/
def ownCodes? (bits : List Bool) : Option (Code × Code × List Bool) := do
  let (literals, bits) ← takeNumber? 5 bits
  let (distances, bits) ← takeNumber? 5 bits
  let (order, bits) ← takeNumber? 4 bits
  let (given, bits) ← threeBitNumbers? (order + 4) bits
  let pairs := lengthOrder.zip given
  let lengthCode := Code.ofLengths ((List.range 19).map fun i => (pairs.lookup i).getD 0)
  let total := literals + 257 + distances + 1
  let (lengths, bits) ← lengthsFrom? lengthCode total (total + 1) [] bits
  pure (Code.ofLengths (lengths.take (literals + 257)), Code.ofLengths (lengths.drop (literals + 257)),
    bits)

/-- Reads the bytes of a stored block. -/
def storedFrom : Nat → ByteArray → List Bool → Progress
  | 0, out, bits => (out, some bits)
  | n + 1, out, bits =>
    match takeNumber? 8 bits with
    | none => (out, none)
    | some (b, bits) => storedFrom n (out.push b.toUInt8) bits

/-- Reads blocks up to the last one. `fuel` bounds the number of bits. -/
def blocksFrom : Nat → ByteArray → List Bool → Progress
  | 0, out, _ => (out, none)
  | fuel + 1, out, bits =>
    match takeNumber? 1 bits, takeNumber? 2 (bits.drop 1) with
    | some (last, _), some (kind, bits) =>
      let (out, rest) : Progress :=
        if kind = 0 then
          let aligned := bits.drop (bits.length % 8)
          match takeNumber? 16 aligned with
          | none => (out, none)
          | some (size, bits) => storedFrom size out (bits.drop 16)
        else if kind = 1 then
          symbolsFrom (Code.ofLengths fixedLengths) (Code.ofLengths (List.replicate 30 5))
            bits.length out bits
        else if kind = 2 then
          match ownCodes? bits with
          | none => (out, none)
          | some (literals, distances, bits) => symbolsFrom literals distances bits.length out bits
        else (out, none)
      match rest with
      | none => (out, none)
      | some bits => if last = 1 then (out, some bits) else blocksFrom fuel out bits
    | _, _ => (out, none)

/-! ## The frame -/

/-- One step of the cyclic redundancy check. -/
def crcStep (crc : UInt32) : UInt32 :=
  if crc &&& 1 == 1 then (crc >>> 1) ^^^ 0xEDB88320 else crc >>> 1

/-- The cyclic redundancy check of bytes. -/
def crc32 (bytes : ByteArray) : UInt32 :=
  (bytes.foldl (fun crc b =>
    (List.range 8).foldl (fun c _ => crcStep c) (crc ^^^ b.toUInt32)) 0xFFFFFFFF) ^^^ 0xFFFFFFFF

/-- What follows the zero byte that ends a text in the header. -/
def afterZero (bytes : List UInt8) : List UInt8 :=
  (bytes.dropWhile (· ≠ 0)).drop 1

/-- The compressed part behind the header, whose first ten bytes are always there. -/
def body (bytes : List UInt8) : Except Fault (List UInt8) :=
  match bytes with
  | 0x1f :: 0x8b :: 8 :: flags :: _ :: _ :: _ :: _ :: _ :: _ :: rest =>
    let rest :=
      if flags &&& 4 ≠ 0 then
        rest.drop (2 + (rest.getD 0 0).toNat + 256 * (rest.getD 1 0).toNat)
      else rest
    let rest := if flags &&& 8 ≠ 0 then afterZero rest else rest
    let rest := if flags &&& 16 ≠ 0 then afterZero rest else rest
    .ok (if flags &&& 2 ≠ 0 then rest.drop 2 else rest)
  | _ => .error (if bytes.length < 10 then .endsEarly else .notCompressed)

/-- The number that four bytes stand for, the lowest first. -/
def littleEndian32 (n : UInt32) : List UInt8 :=
  [n.toUInt8, (n >>> 8).toUInt8, (n >>> 16).toUInt8, (n >>> 24).toUInt8]

/-- What is wrong with the bits behind the last block, if anything: they have to give the checksum
and the size of the bytes that were compressed. -/
def trailerFault? (out : ByteArray) (rest : List Bool) : Option Fault :=
  let trailer := bitsOf (littleEndian32 (crc32 out) ++ littleEndian32 out.size.toUInt32)
  let aligned := rest.drop (rest.length % 8)
  if trailer.isPrefixOf aligned then none
  else some (if aligned.length < trailer.length then .endsEarly else .wrongChecksum)

/-- The bytes that were compressed, as far as they can be read, and what is wrong with the stream
behind them. -/
def decompress (bytes : ByteArray) : ByteArray × Option Fault :=
  match body bytes.toList with
  | .error fault => (.empty, some fault)
  | .ok body =>
    let bits := bitsOf body
    match blocksFrom (bits.length + 1) .empty bits with
    | (out, none) => (out, some .corrupt)
    | (out, some rest) => (out, trailerFault? out rest)

/-- Bytes in stored blocks of at most 65535 bytes each. `fuel` bounds the number of blocks. -/
def storedBlocks : Nat → List UInt8 → List UInt8
  | 0, _ => []
  | fuel + 1, bytes =>
    let here := bytes.take 65535
    let rest := bytes.drop 65535
    let size := here.length
    [if rest.isEmpty then 1 else 0, size.toUInt8, (size / 256).toUInt8, (65535 - size).toUInt8,
      ((65535 - size) / 256).toUInt8] ++ here
      ++ (if rest.isEmpty then [] else storedBlocks fuel rest)

/-- A gzip stream that holds bytes as they are. -/
def store (bytes : ByteArray) : ByteArray :=
  let frame : List UInt8 := [0x1f, 0x8b, 8, 0, 0, 0, 0, 0, 0, 255]
  ⟨(frame ++ storedBlocks (bytes.size / 65535 + 1) bytes.toList ++ littleEndian32 (crc32 bytes)
    ++ littleEndian32 bytes.size.toUInt32).toArray⟩

end ChrootScan.Gzip
