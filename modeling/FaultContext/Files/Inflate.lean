/-!
# Inflating

The deflate format: stored blocks, and blocks of literals and back references under two prefix codes
that are fixed or told at the start of the block. Bits are taken from each byte lowest first. Every
step takes at least one bit, so the number of bits bounds the number of steps.
-/

namespace FaultContext.Files.Inflate

set_option autoImplicit false

/-- The byte at a position, zero behind the end. -/
def byteAt (data : ByteArray) (position : Nat) : Nat :=
  if h : position < data.size then data[position].toNat else 0

def bit? (data : ByteArray) (position : Nat) : Option Nat :=
  if position / 8 < data.size then some (byteAt data (position / 8) / Nat.pow 2 (position % 8) % 2) else none

/-- A number of `count` bits, lowest first, and the position behind it. -/
def bits? (data : ByteArray) (position : Nat) : Nat → Option (Nat × Nat)
  | 0 => some (0, position)
  | count + 1 => do
      let low ← bit? data position
      let (high, behind) ← bits? data (position + 1) count
      return (low + 2 * high, behind)

/-- A prefix code in canonical form: how many codes there are of each length, and the symbols in the
order of their codes. -/
structure Code where
  counts : Array Nat
  symbols : Array Nat

/-- The code in which symbol `i` has a code of `lengths[i]` bits; a length of zero means no code. -/
def Code.ofLengths (lengths : List Nat) : Code where
  counts := ((List.range 16).map fun length => (lengths.filter (· == length)).length).toArray
  symbols := ((List.range 15).flatMap fun shorter =>
    (lengths.zipIdx.filter fun entry => entry.1 == shorter + 1).map (·.2)).toArray

/-- Takes one symbol, extending the code bit by bit. `first` is the first code of the length at hand
and `index` the place of its symbol. -/
def Code.symbol? (code : Code) (data : ByteArray) (position value first index length : Nat) :
    Nat → Option (Nat × Nat)
  | 0 => none
  | remaining + 1 => do
      let value := value + (← bit? data position)
      let count := code.counts.getD length 0
      if value < first + count then
        return (← code.symbols[index + (value - first)]?, position + 1)
      else
        code.symbol? data (position + 1) (2 * value) (2 * (first + count)) (index + count) (length + 1)
          remaining

def Code.next? (code : Code) (data : ByteArray) (position : Nat) : Option (Nat × Nat) :=
  code.symbol? data position 0 0 0 1 15

/-- The base value and the number of further bits of each length symbol, from symbol 257 on. -/
def lengthTable : Array (Nat × Nat) :=
  #[(3, 0), (4, 0), (5, 0), (6, 0), (7, 0), (8, 0), (9, 0), (10, 0), (11, 1), (13, 1), (15, 1),
    (17, 1), (19, 2), (23, 2), (27, 2), (31, 2), (35, 3), (43, 3), (51, 3), (59, 3), (67, 4),
    (83, 4), (99, 4), (115, 4), (131, 5), (163, 5), (195, 5), (227, 5), (258, 0)]

def distanceTable : Array (Nat × Nat) :=
  #[(1, 0), (2, 0), (3, 0), (4, 0), (5, 1), (7, 1), (9, 2), (13, 2), (17, 3), (25, 3), (33, 4),
    (49, 4), (65, 5), (97, 5), (129, 6), (193, 6), (257, 7), (385, 7), (513, 8), (769, 8),
    (1025, 9), (1537, 9), (2049, 10), (3073, 10), (4097, 11), (6145, 11), (8193, 12), (12289, 12),
    (16385, 13), (24577, 13)]

/-- Repeats `count` bytes from `distance` back, which may run into the bytes just written. -/
def copyBack (output : ByteArray) (distance : Nat) : Nat → ByteArray
  | 0 => output
  | count + 1 =>
      copyBack (output.push (UInt8.ofNat (byteAt output (output.size - distance)))) distance count

/-- The contents of a block under two codes, up to its end symbol. -/
def codedBlock? (literals distances : Code) (data : ByteArray) :
    Nat → Nat → ByteArray → Option (ByteArray × Nat)
  | 0, _, _ => none
  | steps + 1, position, output => do
      let (symbol, position) ← literals.next? data position
      if symbol < 256 then
        codedBlock? literals distances data steps position (output.push (UInt8.ofNat symbol))
      else if symbol = 256 then return (output, position)
      else
        let (base, extra) ← lengthTable[symbol - 257]?
        let (more, position) ← bits? data position extra
        let (symbol, position) ← distances.next? data position
        let (near, extra) ← distanceTable[symbol]?
        let (further, position) ← bits? data position extra
        if output.size < near + further then none
        else
          codedBlock? literals distances data steps position
            (copyBack output (near + further) (base + more))

def fixedLiterals : Code :=
  .ofLengths (List.replicate 144 8 ++ List.replicate 112 9 ++ List.replicate 24 7 ++ List.replicate 8 8)

def fixedDistances : Code := .ofLengths (List.replicate 30 5)

/-- The order in which the lengths of the code for lengths are told. -/
def tellingOrder : List Nat := [16, 17, 18, 0, 8, 7, 9, 6, 10, 5, 11, 4, 12, 3, 13, 2, 14, 1, 15]

def triples? (data : ByteArray) (position : Nat) : Nat → Option (List Nat × Nat)
  | 0 => some ([], position)
  | count + 1 => do
      let (head, position) ← bits? data position 3
      let (tail, position) ← triples? data position count
      return (head :: tail, position)

/-- Told code lengths, the latest first, until there are `wanted`. -/
def lengths? (code : Code) (data : ByteArray) (wanted : Nat) :
    Nat → Nat → List Nat → Option (List Nat × Nat)
  | 0, _, _ => none
  | steps + 1, position, told =>
      if wanted ≤ told.length then
        if told.length = wanted then some (told, position) else none
      else do
        let (symbol, position) ← code.next? data position
        if symbol < 16 then lengths? code data wanted steps position (symbol :: told)
        else if symbol = 16 then
          let (more, position) ← bits? data position 2
          let last ← told.head?
          lengths? code data wanted steps position (List.replicate (3 + more) last ++ told)
        else if symbol = 17 then
          let (more, position) ← bits? data position 3
          lengths? code data wanted steps position (List.replicate (3 + more) 0 ++ told)
        else
          let (more, position) ← bits? data position 7
          lengths? code data wanted steps position (List.replicate (11 + more) 0 ++ told)

/-- The two codes told at the start of a block. -/
def toldCodes? (data : ByteArray) (position : Nat) : Option (Code × Code × Nat) := do
  let (literals, position) ← bits? data position 5
  let (distances, position) ← bits? data position 5
  let (count, position) ← bits? data position 4
  let (given, position) ← triples? data position (count + 4)
  let told := tellingOrder.zip given
  let code := Code.ofLengths ((List.range 19).map fun symbol => (told.lookup symbol).getD 0)
  let wanted := literals + 257 + (distances + 1)
  let (lengths, position) ← lengths? code data wanted (wanted + 1) position []
  let lengths := lengths.reverse
  return (.ofLengths (lengths.take (literals + 257)), .ofLengths (lengths.drop (literals + 257)), position)

/-- The blocks from a position on, at most `blocks` of them. -/
def blocks? (data : ByteArray) : Nat → Nat → ByteArray → Option ByteArray
  | 0, _, _ => none
  | blocks + 1, position, output => do
      let (last, position) ← bits? data position 1
      let (kind, position) ← bits? data position 2
      let (output, position) ←
        if kind = 0 then
          let start := (position + 7) / 8
          let length := byteAt data start + 256 * byteAt data (start + 1)
          if start + 4 + length ≤ data.size then
            some (output ++ data.extract (start + 4) (start + 4 + length), (start + 4 + length) * 8)
          else none
        else if kind = 1 then
          codedBlock? fixedLiterals fixedDistances data (8 * data.size + 1) position output
        else if kind = 2 then do
          let (literals, distances, position) ← toldCodes? data position
          codedBlock? literals distances data (8 * data.size + 1) position output
        else none
      if last = 1 then some output else blocks? data blocks position output

def inflate? (data : ByteArray) : Option ByteArray := blocks? data (8 * data.size + 1) 0 .empty

end FaultContext.Files.Inflate
