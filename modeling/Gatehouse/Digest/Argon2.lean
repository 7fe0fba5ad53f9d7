import Gatehouse.Digest.Blake2b

/-!
# Argon2

The password hash function of RFC 9106.  Memory is a matrix of blocks, one row
for each lane, that is filled column by column; every block is compressed from
the one before it and one from anywhere among those already there.  Which one is
decided by the blocks themselves or, in the independent variants, by a counter.
-/

set_option autoImplicit false

namespace Gatehouse.Digest.Argon2

inductive Variant
  | dependent
  | independent
  | hybrid
  deriving DecidableEq, Repr

def Variant.number : Variant → Nat
  | dependent => 0
  | independent => 1
  | hybrid => 2

inductive Version
  | v16
  | v19
  deriving DecidableEq, Repr

def Version.number : Version → Nat
  | v16 => 16
  | v19 => 19

structure Parameters where
  variant : Variant
  version : Version
  /-- Memory in blocks of 1024 bytes. -/
  memory : Nat
  passes : Nat
  lanes : Nat
  length : Nat
  data : List UInt8
  deriving DecidableEq, Repr

/-! ## Blocks -/

structure Block where
  (r0 r1 r2 r3 r4 r5 r6 r7 : Square)
  deriving DecidableEq, Repr

namespace Block

def zero : Block :=
  ⟨.zero, .zero, .zero, .zero, .zero, .zero, .zero, .zero⟩

instance : Inhabited Block := ⟨zero⟩

def xor (x y : Block) : Block :=
  ⟨x.r0.xor y.r0, x.r1.xor y.r1, x.r2.xor y.r2, x.r3.xor y.r3, x.r4.xor y.r4, x.r5.xor y.r5,
    x.r6.xor y.r6, x.r7.xor y.r7⟩

@[inline] def map (change : Square → Square) (x : Block) : Block :=
  ⟨change x.r0, change x.r1, change x.r2, change x.r3, change x.r4, change x.r5, change x.r6,
    change x.r7⟩

@[inline] def pairs (first second : Square → UInt64) (x : Block) : Square :=
  ⟨first x.r0, second x.r0, first x.r1, second x.r1, first x.r2, second x.r2, first x.r3,
    second x.r3, first x.r4, second x.r4, first x.r5, second x.r5, first x.r6, second x.r6,
    first x.r7, second x.r7⟩

def transpose (x : Block) : Block :=
  ⟨x.pairs (·.a0) (·.a1), x.pairs (·.a2) (·.a3), x.pairs (·.b0) (·.b1), x.pairs (·.b2) (·.b3),
    x.pairs (·.c0) (·.c1), x.pairs (·.c2) (·.c3), x.pairs (·.d0) (·.d1), x.pairs (·.d2) (·.d3)⟩

def words (x : Block) : List UInt64 :=
  [x.r0, x.r1, x.r2, x.r3, x.r4, x.r5, x.r6, x.r7].flatMap Square.words

def ofWords (words : List UInt64) : Block :=
  let row := fun i => Square.ofWords ((words.drop (16 * i)).take 16)
  ⟨row 0, row 1, row 2, row 3, row 4, row 5, row 6, row 7⟩

def ofBytes (data : List UInt8) : Block :=
  ofWords (littleEndianWords 128 data)

def bytes (x : Block) : List UInt8 :=
  x.words.flatMap littleEndian

end Block

/-! ## Compression -/

/-- The sum of two words and twice the product of their low halves. -/
@[inline] def blend (x y : UInt64) : UInt64 :=
  x + y + 2 * ((x &&& 0xFFFFFFFF) * (y &&& 0xFFFFFFFF))

@[inline] def stir (a b c d : UInt64) : Quad :=
  let a := blend a b
  let d := rotateRight64 (d ^^^ a) 32
  let c := blend c d
  let b := rotateRight64 (b ^^^ c) 24
  let a := blend a b
  let d := rotateRight64 (d ^^^ a) 16
  let c := blend c d
  let b := rotateRight64 (b ^^^ c) 63
  ⟨a, b, c, d⟩

def permute (row : Square) : Square :=
  row.round fun _ => stir

def compress (x y : Block) : Block :=
  let mixed := x.xor y
  let rows := mixed.map permute
  let columns := rows.transpose.map permute
  columns.transpose.xor mixed

/-! ## Digests of any length -/

def bytes32 (value : Nat) : List UInt8 :=
  (littleEndian (UInt64.ofNat value)).take 4

/-- Halves of a chain of digests until no more than 64 bytes are missing. -/
def chain (seed : List UInt8) (missing : Nat) : List UInt8 :=
  if missing ≤ 64 then blake2b missing seed
  else
    let digest := blake2b 64 seed
    digest.take 32 ++ chain digest (missing - 32)
termination_by missing

def longDigest (length : Nat) (data : List UInt8) : List UInt8 :=
  chain (bytes32 length ++ data) length

/-! ## The matrix -/

namespace Parameters

def segment (p : Parameters) : Nat :=
  p.memory / (4 * p.lanes)

def columns (p : Parameters) : Nat :=
  4 * p.segment

def blocks (p : Parameters) : Nat :=
  p.lanes * p.columns

end Parameters

/-- A segment being filled: pass, slice of the columns, lane. -/
structure Place where
  pass : Nat
  slice : Nat
  lane : Nat

def countsReferences (p : Parameters) (place : Place) : Bool :=
  match p.variant with
  | .dependent => false
  | .independent => true
  | .hybrid => place.pass == 0 && decide (place.slice < 2)

def referenceBlock (p : Parameters) (place : Place) (counter : Nat) : Block :=
  let head := [place.pass, place.lane, place.slice, p.blocks, p.passes, p.variant.number, counter]
  let input := Block.ofWords (head.map UInt64.ofNat ++ List.replicate 121 0)
  compress .zero (compress .zero input)

def referenceArea (p : Parameters) (place : Place) (index : Nat) (sameLane : Bool) : Nat :=
  let done :=
    if place.pass = 0 then place.slice * p.segment else p.columns - p.segment
  if sameLane then done + index - 1
  else if index = 0 then done - 1
  else done

/-- The column that a word of 32 bits refers to: recent columns more often than old ones. -/
def referenceColumn (p : Parameters) (place : Place) (area : Nat) (word : Nat) : Nat :=
  let far := word * word / 4294967296
  let back := area * far / 4294967296
  let first := if place.pass = 0 ∨ place.slice = 3 then 0 else (place.slice + 1) * p.segment
  (first + (area - 1 - back)) % p.columns

def address (p : Parameters) (lane column : Nat) : Nat :=
  lane * p.columns + column

/-- Fills one block; the word of 64 bits decides what it refers to. -/
def fillBlock (p : Parameters) (place : Place) (memory : Array Block) (index : Nat)
    (word : UInt64) : Array Block :=
  let column := place.slice * p.segment + index
  let before := if column = 0 then p.columns - 1 else column - 1
  let lane :=
    if place.pass = 0 ∧ place.slice = 0 then place.lane else (word >>> 32).toNat % p.lanes
  let area := referenceArea p place index (lane == place.lane)
  let reference := referenceColumn p place area (word &&& 0xFFFFFFFF).toNat
  let fresh := compress (memory.getD (address p place.lane before) .zero)
    (memory.getD (address p lane reference) .zero)
  let here := address p place.lane column
  let kept := place.pass ≠ 0 ∧ p.version = .v19
  memory.setIfInBounds here
    (if kept then fresh.xor (memory.getD here .zero) else fresh)

/-- The first word of the block before the one to fill. -/
def wordBefore (p : Parameters) (place : Place) (memory : Array Block) (index : Nat) : UInt64 :=
  let column := place.slice * p.segment + index
  let before := if column = 0 then p.columns - 1 else column - 1
  (memory.getD (address p place.lane before) .zero).r0.a0

/-- The first two columns are filled from the start. -/
def firstIndex (place : Place) : Nat :=
  if place.pass = 0 ∧ place.slice = 0 then 2 else 0

def fillDependent (p : Parameters) (place : Place) (memory : Array Block) : Array Block :=
  ((List.range p.segment).drop (firstIndex place)).foldl
    (fun memory index => fillBlock p place memory index (wordBefore p place memory index)) memory

/-- Fills up to 128 blocks of a segment whose references are decided by a counter. -/
def fillCounted (p : Parameters) (place : Place) (memory : Array Block) (counter : Nat) :
    Array Block :=
  let words := (referenceBlock p place (counter + 1)).words
  let indices := (List.range p.segment).drop (128 * counter)
  ((indices.zip words).drop (if counter = 0 then firstIndex place else 0)).foldl
    (fun memory (index, word) => fillBlock p place memory index word) memory

def fillSegment (p : Parameters) (place : Place) (memory : Array Block) : Array Block :=
  if countsReferences p place then
    (List.range ((p.segment + 127) / 128)).foldl (fillCounted p place) memory
  else fillDependent p place memory

def places (p : Parameters) : List Place :=
  (List.range p.passes).flatMap fun pass =>
    (List.range 4).flatMap fun slice => (List.range p.lanes).map fun lane => ⟨pass, slice, lane⟩

/-! ## The hash -/

def counted (data : List UInt8) : List UInt8 :=
  bytes32 data.length ++ data

def initial (p : Parameters) (password salt : List UInt8) : List UInt8 :=
  blake2b 64
    (bytes32 p.lanes ++ bytes32 p.length ++ bytes32 p.memory ++ bytes32 p.passes ++
      bytes32 p.version.number ++ bytes32 p.variant.number ++ counted password ++ counted salt ++
      counted [] ++ counted p.data)

def firstBlock (seed : List UInt8) (lane column : Nat) : Block :=
  Block.ofBytes (longDigest 1024 (seed ++ bytes32 column ++ bytes32 lane))

/-- The matrix with its first two columns. -/
def startMemory (p : Parameters) (seed : List UInt8) : Array Block :=
  (List.range p.lanes).foldl
    (fun memory lane =>
      (memory.setIfInBounds (address p lane 0) (firstBlock seed lane 0)).setIfInBounds
        (address p lane 1) (firstBlock seed lane 1))
    (Array.replicate p.blocks .zero)

/-- The last blocks of all lanes as one. -/
def lastBlock (p : Parameters) (memory : Array Block) : Block :=
  (List.range p.lanes).foldl
    (fun sofar lane => sofar.xor (memory.getD (address p lane (p.columns - 1)) .zero)) .zero

def hash (p : Parameters) (password salt : List UInt8) : List UInt8 :=
  let memory := startMemory p (initial p password salt)
  let filled := (places p).foldl (fun memory place => fillSegment p place memory) memory
  longDigest p.length (lastBlock p filled).bytes

end Gatehouse.Digest.Argon2
