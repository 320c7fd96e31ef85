import Waypost.Codec.Bytes

/-!
# Inflate

Reads compressed blocks. A code is kept as a list of its words; reading goes bit by bit, and says
what is wrong with data that cannot be read. Data that end early give what they hold up to there.
-/

namespace Waypost.Codec.Inflate

/-- What is wrong with compressed data. -/
inductive Damage where
  | blockType
  | storedLengths
  | tooManySymbols
  | codeLengths
  | lengthRepeat
  | endMissing
  | literalSet
  | distanceSet
  | literalCode
  | distanceCode
  | tooFarBack
  | header
  | method
  | window
  | headerFlags
  | headerSum
  | dataSum
  | dataLength
  /-- The data are to be read with other data that are not at hand. -/
  | dictionary
deriving DecidableEq, Repr

/-- The wording of the damage. -/
def Damage.message : Damage → String
  | .blockType => "Error -3 while decompressing data: invalid block type"
  | .storedLengths => "Error -3 while decompressing data: invalid stored block lengths"
  | .tooManySymbols => "Error -3 while decompressing data: too many length or distance symbols"
  | .codeLengths => "Error -3 while decompressing data: invalid code lengths set"
  | .lengthRepeat => "Error -3 while decompressing data: invalid bit length repeat"
  | .endMissing => "Error -3 while decompressing data: invalid code -- missing end-of-block"
  | .literalSet => "Error -3 while decompressing data: invalid literal/lengths set"
  | .distanceSet => "Error -3 while decompressing data: invalid distances set"
  | .literalCode => "Error -3 while decompressing data: invalid literal/length code"
  | .distanceCode => "Error -3 while decompressing data: invalid distance code"
  | .tooFarBack => "Error -3 while decompressing data: invalid distance too far back"
  | .header => "Error -3 while decompressing data: incorrect header check"
  | .method => "Error -3 while decompressing data: unknown compression method"
  | .window => "Error -3 while decompressing data: invalid window size"
  | .headerFlags => "Error -3 while decompressing data: unknown header flags set"
  | .headerSum => "Error -3 while decompressing data: header crc mismatch"
  | .dataSum => "Error -3 while decompressing data: incorrect data check"
  | .dataLength => "Error -3 while decompressing data: incorrect length check"
  | .dictionary => "Error 2 while decompressing data"

/-- Why reading stops before the end. -/
inductive Stop where
  | early
  | damaged (damage : Damage)
deriving DecidableEq, Repr

/-! ## Bits -/

/-- Bits, the least significant bit of each byte first. -/
def bitsOf (bs : Bytes) : List Bool :=
  bs.flatMap fun b => (List.range 8).map fun i => b.toNat.testBit i

/-- The first `n` bits as a number, the least significant first. -/
def takeNat : Nat → List Bool → Except Stop (Nat × List Bool)
  | 0, bits => .ok (0, bits)
  | _ + 1, [] => .error .early
  | n + 1, b :: bits =>
    match takeNat n bits with
    | .error stop => .error stop
    | .ok (v, bits) => .ok ((if b then 1 else 0) + 2 * v, bits)

/-- The bits from the next whole byte on. -/
def wholeBytes (bits : List Bool) : List Bool :=
  bits.drop (bits.length % 8)

/-! ## Codes -/

/-- A word of a code: its length, its bits as a number and the symbol it stands for. -/
abbrev Word := Nat × Nat × Nat

/-- The words of the canonical code with the given lengths. -/
def canonical (lengths : List Nat) : List Word :=
  let indexed := lengths.zip (List.range lengths.length)
  ((List.range 16).foldl (fun (acc : List Word × Nat) len =>
    if len = 0 then acc
    else
      let symbols := indexed.filter fun p => p.1 = len
      let first := acc.2 * 2
      let words := symbols.zip (List.range symbols.length) |>.map fun p => (len, first + p.2, p.1.2)
      (acc.1 ++ words, first + symbols.length)) ([], 0)).1

/-- The room that words of the given lengths take, in parts of 2 ^ 15. -/
def room (lengths : List Nat) : Nat :=
  (lengths.filter (· ≠ 0)).foldr (fun len n => Nat.pow 2 (15 - len) + n) 0

/-- Whether the words leave no bits without a meaning. -/
def isComplete (lengths : List Nat) : Bool :=
  room lengths = Nat.pow 2 15

/-- Whether there is a single word of one bit. -/
def isSingle (lengths : List Nat) : Bool :=
  lengths.filter (· ≠ 0) = [1]

/-- Whether there is no word. -/
def isVoid (lengths : List Nat) : Bool :=
  lengths.all (· = 0)

/-- Whether bits begin a word. -/
def beginsWord (words : List Word) (len code : Nat) : Bool :=
  words.any fun w => len ≤ w.1 && w.2.1 / Nat.pow 2 (w.1 - len) = code

/-- Reads one symbol, `len` and `code` being what is read so far. Bits that begin no word are
damage. -/
def readSymbol (words : List Word) (damage : Damage) (len code : Nat) :
    List Bool → Except Stop (Nat × List Bool)
  | [] => .error .early
  | b :: bits =>
    let len := len + 1
    let code := code * 2 + if b then 1 else 0
    match words.find? fun w => w.1 = len && w.2.1 = code with
    | some w => .ok (w.2.2, bits)
    | none =>
      if beginsWord words len code then readSymbol words damage len code bits
      else .error (.damaged damage)

/-! ## Blocks with codes -/

/-- The base value and the number of extra bits of a length symbol. -/
def lengthBase : List (Nat × Nat) :=
  [(3, 0), (4, 0), (5, 0), (6, 0), (7, 0), (8, 0), (9, 0), (10, 0), (11, 1), (13, 1), (15, 1),
   (17, 1), (19, 2), (23, 2), (27, 2), (31, 2), (35, 3), (43, 3), (51, 3), (59, 3), (67, 4),
   (83, 4), (99, 4), (115, 4), (131, 5), (163, 5), (195, 5), (227, 5), (258, 0)]

/-- The base value and the number of extra bits of a distance symbol. -/
def distanceBase : List (Nat × Nat) :=
  [(1, 0), (2, 0), (3, 0), (4, 0), (5, 1), (7, 1), (9, 2), (13, 2), (17, 3), (25, 3), (33, 4),
   (49, 4), (65, 5), (97, 5), (129, 6), (193, 6), (257, 7), (385, 7), (513, 8), (769, 8), (1025, 9),
   (1537, 9), (2049, 10), (3073, 10), (4097, 11), (6145, 11), (8193, 12), (12289, 12), (16385, 13),
   (24577, 13)]

/-- The value of a symbol with its extra bits. -/
def readExtra (table : List (Nat × Nat)) (damage : Damage) (symbol : Nat) (bits : List Bool) :
    Except Stop (Nat × List Bool) :=
  match table[symbol]? with
  | none => .error (.damaged damage)
  | some (base, extra) =>
    match takeNat extra bits with
    | .error stop => .error stop
    | .ok (v, bits) => .ok (base + v, bits)

/-- Repeats `n` bytes that stand `distance` bytes back. -/
def copyBack (distance : Nat) : Nat → Array UInt8 → Array UInt8
  | 0, out => out
  | n + 1, out => copyBack distance n (out.push (out.getD (out.size - distance) 0))

/-- The two codes of a block. -/
structure Codes where
  literals : List Word
  distances : List Word

/-- Reads the length and the distance of bytes to repeat, given the symbol of the length. -/
def readRepeat (codes : Codes) (symbol : Nat) (bits : List Bool) :
    Except Stop (Nat × Nat × List Bool) := do
  let (length, bits) ← readExtra lengthBase .literalCode (symbol - 257) bits
  let (d, bits) ← readSymbol codes.distances .distanceCode 0 0 bits
  let (distance, bits) ← readExtra distanceBase .distanceCode d bits
  return (length, distance, bits)

/-- What comes of reading: the bytes so far, and why there are no more or which bits follow. -/
abbrev Output := Array UInt8 × Except Stop (List Bool)

/-- Reads the symbols of a block up to its end. Each takes at least one bit, so the number of bits
is enough fuel. -/
def readBlock (codes : Codes) : Nat → Array UInt8 → List Bool → Output
  | 0, out, _ => (out, .error .early)
  | fuel + 1, out, bits =>
    match readSymbol codes.literals .literalCode 0 0 bits with
    | .error stop => (out, .error stop)
    | .ok (symbol, bits) =>
      if symbol < 256 then readBlock codes fuel (out.push (UInt8.ofNat symbol)) bits
      else if symbol = 256 then (out, .ok bits)
      else
        match readRepeat codes symbol bits with
        | .error stop => (out, .error stop)
        | .ok (length, distance, bits) =>
          if distance > out.size then (out, .error (.damaged .tooFarBack))
          else readBlock codes fuel (copyBack distance length out) bits

/-- The codes of blocks that bring none. -/
def fixedCodes : Codes where
  literals := canonical
    (List.replicate 144 8 ++ List.replicate 112 9 ++ List.replicate 24 7 ++ List.replicate 8 8)
  distances := canonical (List.replicate 32 5)

/-! ## Codes of a block's own -/

/-- The order in which the lengths of the length code are given. -/
def lengthOrder : List Nat :=
  [16, 17, 18, 0, 8, 7, 9, 6, 10, 5, 11, 4, 12, 3, 13, 2, 14, 1, 15]

/-- Reads `n` numbers of three bits. -/
def readThrees : Nat → List Bool → Except Stop (List Nat × List Bool)
  | 0, bits => .ok ([], bits)
  | n + 1, bits => do
    let (v, bits) ← takeNat 3 bits
    let (vs, bits) ← readThrees n bits
    return (v :: vs, bits)

/-- Reads a symbol of the length code; where there is no code, each bit stands for the length
zero. -/
def readLengthSymbol (words : List Word) (bits : List Bool) : Except Stop (Nat × List Bool) :=
  if words.isEmpty then
    match takeNat 1 bits with
    | .error stop => .error stop
    | .ok (_, bits) => .ok (0, bits)
  else readSymbol words .codeLengths 0 0 bits

/-- Reads code lengths, of which `wanted` are needed, given by the length code; `acc` holds those
read, the last first. -/
def readLengths (words : List Word) (wanted : Nat) :
    Nat → List Nat → List Bool → Except Stop (List Nat × List Bool)
  | 0, _, _ => .error .early
  | fuel + 1, acc, bits =>
    if wanted ≤ acc.length then .ok (acc.reverse, bits)
    else
      match readLengthSymbol words bits with
      | .error stop => .error stop
      | .ok (symbol, bits) =>
        if symbol < 16 then readLengths words wanted fuel (symbol :: acc) bits
        else
          let (repeated, base, extra) :=
            if symbol = 16 then (acc.head?, 3, 2)
            else if symbol = 17 then (some 0, 3, 3)
            else (some 0, 11, 7)
          match takeNat extra bits, repeated with
          | .error stop, _ => .error stop
          | .ok _, none => .error (.damaged .lengthRepeat)
          | .ok (n, bits), some v =>
            if wanted < acc.length + base + n then .error (.damaged .lengthRepeat)
            else readLengths words wanted fuel (List.replicate (base + n) v ++ acc) bits

/-- Reads the codes of a block that brings its own. -/
def readCodes (bits : List Bool) : Except Stop (Codes × List Bool) := do
  let (hlit, bits) ← takeNat 5 bits
  let (hdist, bits) ← takeNat 5 bits
  let (hclen, bits) ← takeNat 4 bits
  if 286 < hlit + 257 || 30 < hdist + 1 then throw (.damaged .tooManySymbols)
  let (threes, bits) ← readThrees (hclen + 4) bits
  let given := lengthOrder.zip threes
  let own := (List.range 19).map fun s => (given.lookup s).getD 0
  if !isComplete own && !isVoid own then throw (.damaged .codeLengths)
  let (lengths, bits) ← readLengths (canonical own) (hlit + 257 + hdist + 1) 400 [] bits
  let literals := lengths.take (hlit + 257)
  let distances := lengths.drop (hlit + 257)
  if literals.getD 256 0 = 0 then throw (.damaged .endMissing)
  if !isComplete literals && !isSingle literals then throw (.damaged .literalSet)
  if !isComplete distances && !isSingle distances && !isVoid distances then
    throw (.damaged .distanceSet)
  return (⟨canonical literals, canonical distances⟩, bits)

/-! ## All blocks -/

/-- Reads `n` plain bytes. -/
def readPlain : Nat → Array UInt8 → List Bool → Output
  | 0, out, bits => (out, .ok bits)
  | n + 1, out, bits =>
    match takeNat 8 bits with
    | .error stop => (out, .error stop)
    | .ok (v, bits) => readPlain n (out.push (UInt8.ofNat v)) bits

/-- Reads the length of a block that is stored as it is: the length and its complement follow at the
next whole byte. -/
def readStoredLength (bits : List Bool) : Except Stop (Nat × List Bool) := do
  let (n, bits) ← takeNat 16 (wholeBytes bits)
  let (m, bits) ← takeNat 16 bits
  if n + m = 65535 then return (n, bits) else throw (.damaged .storedLengths)

/-- Reads a block of a kind. -/
def readKind (kind : Nat) (out : Array UInt8) (bits : List Bool) : Output :=
  if kind = 0 then
    match readStoredLength bits with
    | .error stop => (out, .error stop)
    | .ok (n, bits) => readPlain n out bits
  else if kind = 1 then readBlock fixedCodes (bits.length + 1) out bits
  else if kind = 2 then
    match readCodes bits with
    | .error stop => (out, .error stop)
    | .ok (codes, bits) => readBlock codes (bits.length + 1) out bits
  else (out, .error (.damaged .blockType))

/-- Reads what stands before a block: whether it is the last, and its kind. -/
def readHead (bits : List Bool) : Except Stop (Bool × Nat × List Bool) := do
  let (v, bits) ← takeNat 3 bits
  return (v % 2 = 1, v / 2, bits)

/-- Reads blocks up to the last one. Each takes at least three bits, so the number of bits is enough
fuel. -/
def readBlocks : Nat → Array UInt8 → List Bool → Output
  | 0, out, _ => (out, .error .early)
  | fuel + 1, out, bits =>
    match readHead bits with
    | .error stop => (out, .error stop)
    | .ok (last, kind, bits) =>
      match readKind kind out bits with
      | (out, .error stop) => (out, .error stop)
      | (out, .ok bits) => if last then (out, .ok bits) else readBlocks fuel out bits

/-- Reads compressed data. -/
def inflate (bits : List Bool) : Output :=
  readBlocks (bits.length + 1) #[] bits

end Waypost.Codec.Inflate
