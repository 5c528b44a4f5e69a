import Colloquy.Transport.PrefixCode

/-!
# Compressed octets

A compressed stream is a sequence of blocks. A block is stored as it is, or it is a
sequence of symbols: octets, and references that repeat a stretch of what was written
before. A stream that breaks off is no fault: what it holds until there counts.
-/

namespace Colloquy.Inflate

/-- What can be wrong with a stream. -/
inductive Fault
  | header
  | method
  | window
  | headerFlags
  | headerCheck
  | dictionary
  | blockType
  | storedLength
  | symbolCount
  | lengthCode
  | lengthRepeat
  | noBlockEnd
  | literalSet
  | distanceSet
  | literalCode
  | distanceCode
  | tooFarBack
  | check
  | totalLength
  deriving DecidableEq

/-- What a fault says. -/
def Fault.message : Fault → Text
  | .header => "incorrect header check"
  | .method => "unknown compression method"
  | .window => "invalid window size"
  | .headerFlags => "unknown header flags set"
  | .headerCheck => "header crc mismatch"
  | .dictionary => "need dictionary"
  | .blockType => "invalid block type"
  | .storedLength => "invalid stored block lengths"
  | .symbolCount => "too many length or distance symbols"
  | .lengthCode => "invalid code lengths set"
  | .lengthRepeat => "invalid bit length repeat"
  | .noBlockEnd => "invalid code -- missing end-of-block"
  | .literalSet => "invalid literal/lengths set"
  | .distanceSet => "invalid distances set"
  | .literalCode => "invalid literal/length code"
  | .distanceCode => "invalid distance code"
  | .tooFarBack => "invalid distance too far back"
  | .check => "incorrect data check"
  | .totalLength => "incorrect length check"

/-- Why reading stops before the end of a stream. -/
inductive Halt
  | short
  | fault (f : Fault)

/-- Where reading stands: what is left of the stream, and what was written. -/
structure Progress where
  input : Bits
  output : Array UInt8 := #[]

/-- A reader of a stream. What it wrote stays when it stops. -/
abbrev Reader := ExceptT Halt (StateM Progress)

/-- The reader that stops with a fault. -/
def fail (f : Fault) : Reader α :=
  throw (.fault f)

/-- Stops with a fault unless a condition holds. -/
def require (holds : Bool) (f : Fault) : Reader Unit :=
  if holds then pure () else fail f

/-! ## Bits and octets -/

/-- The next bit. -/
def bit : Reader Bool := do
  match (← get).input with
  | [] => throw .short
  | b :: rest =>
    modify ({ · with input := rest })
    return b

/-- The number in the next bits, the lowest one first. -/
def number : Nat → Reader Nat
  | 0 => return 0
  | n + 1 => do
    let low ← bit
    return low.toNat + 2 * (← number n)

/-- The next octets. -/
def octets : Nat → Reader Bytes
  | 0 => return []
  | n + 1 => do
    let first := (← number 8).toUInt8
    return first :: (← octets n)

/-- Skips what is left of an octet that was begun. -/
def align : Reader Unit :=
  modify fun p => { p with input := p.input.drop (p.input.length % 8) }

/-- Writes an octet. -/
def write (b : UInt8) : Reader Unit :=
  modify fun p => { p with output := p.output.push b }

/-- Writes the octet again that was written `distance` octets before. -/
def writeAgain (distance : Nat) : Reader Unit :=
  modify fun p => { p with output := p.output.push (p.output.getD (p.output.size - distance) 0) }

/-- The next symbol of a code. -/
def symbol (code : PrefixCode) (missing : Fault) : Reader Nat := do
  match code.front (← get).input with
  | .symbol s rest =>
    modify ({ · with input := rest })
    return s
  | .partly => throw .short
  | .none => fail missing

/-! ## References -/

/-- The lengths of stretches: of each symbol the least length, and the number of bits that follow
and add to it. -/
def lengthRows : List (Nat × Nat) :=
  [(3, 0), (4, 0), (5, 0), (6, 0), (7, 0), (8, 0), (9, 0), (10, 0), (11, 1), (13, 1), (15, 1),
    (17, 1), (19, 2), (23, 2), (27, 2), (31, 2), (35, 3), (43, 3), (51, 3), (59, 3), (67, 4),
    (83, 4), (99, 4), (115, 4), (131, 5), (163, 5), (195, 5), (227, 5), (258, 0)]

/-- The distances of stretches in the same form. -/
def distanceRows : List (Nat × Nat) :=
  [(1, 0), (2, 0), (3, 0), (4, 0), (5, 1), (7, 1), (9, 2), (13, 2), (17, 3), (25, 3), (33, 4),
    (49, 4), (65, 5), (97, 5), (129, 6), (193, 6), (257, 7), (385, 7), (513, 8), (769, 8),
    (1025, 9), (1537, 9), (2049, 10), (3073, 10), (4097, 11), (6145, 11), (8193, 12), (12289, 12),
    (16385, 13), (24577, 13)]

/-- The amount that a symbol and the bits after it stand for. -/
def amount (rows : List (Nat × Nat)) (symbol : Nat) (missing : Fault) : Reader Nat := do
  match rows[symbol]? with
  | some (least, more) => return least + (← number more)
  | none => fail missing

/-! ## Blocks -/

/-- The symbol that ends a block. -/
def blockEnd : Nat := 256

/-- Reads symbols up to the end of a block, at most `fuel` of them. -/
def readSymbols (literals distances : PrefixCode) : Nat → Reader Unit
  | 0 => throw .short
  | fuel + 1 => do
    let s ← symbol literals .literalCode
    if s = blockEnd then return
    if s < blockEnd then write s.toUInt8
    else
      let length ← amount lengthRows (s - blockEnd - 1) .literalCode
      let distance ← amount distanceRows (← symbol distances .distanceCode) .distanceCode
      require (distance ≤ (← get).output.size) .tooFarBack
      for _ in List.range length do writeAgain distance
    readSymbols literals distances fuel

/-- Reads symbols up to the end of a block. Each of them takes up a bit at least. -/
def readCoded (literals distances : PrefixCode) : Reader Unit := do
  readSymbols literals distances ((← get).input.length + 1)

/-- Writes `count` octets of the stream as they are. -/
def copyOctets : Nat → Reader Unit
  | 0 => return
  | count + 1 => do
    write (← number 8).toUInt8
    copyOctets count

/-- Reads a block that is stored as it is. Its length is followed by the complement of it. -/
def readStored : Reader Unit := do
  align
  let sizes ← number 32
  let length := sizes % 0x10000
  require (sizes / 0x10000 = 0xffff - length) .storedLength
  copyOctets length

/-- The code of literals and lengths that is known beforehand. -/
def knownLiterals : PrefixCode :=
  .ofLengths (List.replicate 144 8 ++ List.replicate 112 9 ++ List.replicate 24 7
    ++ List.replicate 8 8)

/-- The code of distances that is known beforehand. -/
def knownDistances : PrefixCode :=
  .ofLengths (List.replicate 32 5)

/-- The order in which a block gives the lengths of the code of its code lengths. -/
def lengthOrder : List Nat :=
  [16, 17, 18, 0, 8, 7, 9, 6, 10, 5, 11, 4, 12, 3, 13, 2, 14, 1, 15]

/-- The code of code lengths, of which a block gives the lengths in their order. Without any
codeword each bit stands for zero. -/
def codeOfLengths (given : List Nat) : Reader PrefixCode := do
  let lengths := (List.range 19).map fun symbol => given.getD (lengthOrder.idxOf symbol) 0
  let code := PrefixCode.ofLengths lengths
  if lengths.all (· = 0) then return [[0, 0]]
  require code.isComplete .lengthCode
  return code

/-- The lengths that a symbol of the code of code lengths stands for after earlier ones. -/
def nextLengths (before : List Nat) (symbol : Nat) : Reader (List Nat) := do
  match symbol with
  | 16 => do
    let count := 3 + (← number 2)
    match before.getLast? with
    | some last => return List.replicate count last
    | none => fail .lengthRepeat
  | 17 => return List.replicate (3 + (← number 3)) 0
  | 18 => return List.replicate (11 + (← number 7)) 0
  | length => return [length]

/-- The lengths of `total` codewords after those that were read before, in at most `fuel`
steps. -/
def readLengths (code : PrefixCode) (total : Nat) (before : List Nat) : Nat → Reader (List Nat)
  | 0 => return before
  | fuel + 1 => do
    if total ≤ before.length then return before
    let more ← nextLengths before (← symbol code .lengthCode)
    require (before.length + more.length ≤ total) .lengthRepeat
    readLengths code total (before ++ more) fuel

/-- Reads a block that begins with its own codes. -/
def readOwnCodes : Reader Unit := do
  let counts ← number 14
  let literalCount := counts % 32 + 257
  let distanceCount := counts / 32 % 32 + 1
  let lengthCount := counts / 1024 + 4
  require (literalCount ≤ 286 && distanceCount ≤ 30) .symbolCount
  let given ← (List.range lengthCount).mapM fun _ => number 3
  let code ← codeOfLengths given
  let total := literalCount + distanceCount
  let lengths ← readLengths code total [] total
  require (lengths.getD blockEnd 0 ≠ 0) .noBlockEnd
  let literals := PrefixCode.ofLengths (lengths.take literalCount)
  require literals.isUsable .literalSet
  let distances := PrefixCode.ofLengths (lengths.drop literalCount)
  require distances.isUsable .distanceSet
  readCoded literals distances

/-- Reads blocks up to the last one, at most `fuel` of them. -/
def readBlocks : Nat → Reader Unit
  | 0 => throw .short
  | fuel + 1 => do
    let head ← number 3
    match head / 2 with
    | 0 => readStored
    | 1 => readCoded knownLiterals knownDistances
    | 2 => readOwnCodes
    | _ => fail .blockType
    if head % 2 = 0 then readBlocks fuel

/-- Reads the blocks of a stream. Each of them takes up three bits at least. -/
def blocks : Reader Unit := do
  readBlocks ((← get).input.length + 1)

/-! ## Streams -/

/-- What a reader writes. -/
def run (reader : Reader Unit) (stream : Bytes) : Except Fault Bytes :=
  match StateT.run reader { input := Bits.ofBytes stream } with
  | (.error (.fault f), _) => .error f
  | (_, progress) => .ok progress.output.toList

/-- The sum by which a stream is checked: the sum of its octets, and the sum of those sums. -/
def checksum (stream : Array UInt8) : Nat :=
  let (low, high) := stream.foldl (fun (low, high) b =>
    let low := (low + b.toNat) % 65521
    (low, (high + low) % 65521)) (1, 0)
  high * 0x10000 + low

/-- A remainder after one more octet. -/
def nextRemainder (remainder : UInt32) (b : UInt8) : UInt32 :=
  (List.range 8).foldl
    (fun r _ => if r % 2 = 1 then (r >>> 1) ^^^ 0xedb88320 else r >>> 1)
    (remainder ^^^ b.toUInt32)

/-- The remainder by which a stream is checked. -/
def remainder (stream : Array UInt8) : Nat :=
  (stream.foldl nextRemainder 0xffffffff ^^^ 0xffffffff).toNat

/-- The number in octets, the highest one first. -/
def ofHighFirst (bytes : Bytes) : Nat :=
  bytes.foldl (fun n b => 256 * n + b.toNat) 0

/-- Reads a stream that begins with its method and ends with its checksum. -/
def framed : Reader Unit := do
  let head ← octets 2
  let method := (head.headD 0).toNat
  require (ofHighFirst head % 31 = 0) .header
  require (method % 16 = 8) .method
  require (method / 16 ≤ 7) .window
  if (ofHighFirst head).testBit 5 then
    let _ ← number 32
    fail .dictionary
  blocks
  align
  let given ← octets 4
  require (ofHighFirst given = checksum (← get).output) .check

/-- The octets up to a zero, at most `fuel` of them. -/
def untilZero : Nat → Reader Bytes
  | 0 => throw .short
  | fuel + 1 => do
    let b := (← number 8).toUInt8
    if b = 0 then return [0]
    return b :: (← untilZero fuel)

/-- The field of a file header that a flag announces. -/
def announced (flags : Nat) (flag : Nat) (field : Reader Bytes) : Reader Bytes :=
  if flags.testBit flag then field else pure []

/-- Reads the header of a file. -/
def fileHeader : Reader Unit := do
  let magic ← octets 2
  require (magic = [0x1f, 0x8b]) .header
  let kind ← octets 2
  let flags := (kind.getD 1 0).toNat
  require (kind.headD 0 = 8) .method
  require (flags < 32) .headerFlags
  let time ← octets 6
  let size := (← get).input.length
  let extra ← announced flags 2 do
    let count ← octets 2
    return count ++ (← octets (ofHighFirst count.reverse))
  let name ← announced flags 3 (untilZero size)
  let comment ← announced flags 4 (untilZero size)
  let header := magic ++ kind ++ time ++ extra ++ name ++ comment
  if flags.testBit 1 then
    let given ← number 16
    require (given = remainder header.toArray % 0x10000) .headerCheck

/-- Reads a stream within the header and the checks of a file. -/
def file : Reader Unit := do
  fileHeader
  blocks
  align
  let given ← number 32
  require (given = remainder (← get).output) .check
  let total ← number 32
  require (total = (← get).output.size % 0x100000000) .totalLength

end Colloquy.Inflate
