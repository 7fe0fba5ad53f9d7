/-!
# Random draws

Random decisions are read off a stream of 64-bit words.  A draw is a function of
the stream and of how many words are gone, and says how many are gone after it;
whatever is proved of a draw for all streams holds for every source of
randomness.
-/

set_option autoImplicit false

namespace Gatehouse

abbrev Words := Nat → UInt64

/-- A random value: what is drawn from a stream at a position, and the position after it. -/
def Draw (α : Type) := Words → Nat → α × Nat

namespace Draw

def run {α : Type} (draw : Draw α) (words : Words) (position : Nat) : α × Nat :=
  draw words position

instance : Monad Draw where
  pure value := fun _ position => (value, position)
  bind draw next := fun words position =>
    let (value, position) := draw words position
    next value words position

def word : Draw UInt64 := fun words position =>
  (words position, position + 1)

/-- The next `bits` random bits: a whole word, or its high half. -/
def bits (count : Nat) : Draw Nat := do
  let next ← word
  pure (next.toNat / Nat.pow 2 (64 - count))

/-- Whether a low part leaves room for a carry from a second draw. -/
def carries (width count low : Nat) : Bool :=
  decide (low > Nat.pow 2 width - count)

/-- A number below `count`, which must not be zero, from draws of `width` bits: the high part of a
product, corrected by a second draw where the low part is too great to be fair. -/
def below (width count : Nat) : Draw Nat := do
  let first ← bits width
  let product := first * count
  let high := product / Nat.pow 2 width
  let low := product % Nat.pow 2 width
  if carries width count low then
    let second ← bits width
    if low + second * count / Nat.pow 2 width ≥ Nat.pow 2 width then pure (high + 1) else pure high
  else pure high

/-- An integer from `low` to `high`, both included, from draws of `width` bits. -/
def between (width : Nat) (low high : Int) : Draw Int := do
  let offset ← below width (high - low + 1).toNat
  pure (low + offset)

def byte : Draw UInt8 := do
  let half ← bits 32
  pure (UInt8.ofNat half)

end Draw

namespace Words

def splitMix (seed : UInt64) : Words := fun position =>
  let state := seed + 0x9E3779B97F4A7C15 * (UInt64.ofNat position + 1)
  let mixed := (state ^^^ (state >>> 30)) * 0xBF58476D1CE4E5B9
  let mixed := (mixed ^^^ (mixed >>> 27)) * 0x94D049BB133111EB
  mixed ^^^ (mixed >>> 31)

def cycle (words : List UInt64) : Words := fun position =>
  words.getD (position % words.length) 0

end Words

end Gatehouse
