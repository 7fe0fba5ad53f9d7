import Gatehouse.Table

/-!
# Token buckets

Every client has a bucket of tokens that fills up over a minute.  A request
takes one token, and is rejected when there is no whole one.  The arithmetic is
a parameter: the running limiter counts in doubles, statements about it in exact
rationals.
-/

set_option autoImplicit false

namespace Gatehouse.Throttle

class Arithmetic (α : Type) where
  ofNat : Nat → α
  add : α → α → α
  sub : α → α → α
  mul : α → α → α
  div : α → α → α
  less : α → α → Bool

instance : Arithmetic Float where
  ofNat := Float.ofNat
  add x y := x + y
  sub x y := x - y
  mul x y := x * y
  div x y := x / y
  less x y := decide (x < y)

instance : Arithmetic Rat where
  ofNat value := value
  add x y := x + y
  sub x y := x - y
  mul x y := x * y
  div x y := x / y
  less x y := decide (x < y)

structure Bucket (α : Type) where
  tokens : α
  /-- When the bucket was last filled up, which is when the client was last seen. -/
  lastRefill : Int
  deriving Repr

def second : Nat := 1000000000

/-- Nanoseconds from `earlier` to `later`, zero if there are none. -/
def elapsed (earlier later : Int) : Nat :=
  (later - earlier).toNat

section

variable {α : Type} [Arithmetic α]

/-- Minutes of a number of nanoseconds. -/
def minutes (nanoseconds : Nat) : α :=
  let seconds : α :=
    Arithmetic.add (Arithmetic.ofNat (nanoseconds / second))
      (Arithmetic.div (Arithmetic.ofNat (nanoseconds % second)) (Arithmetic.ofNat second))
  Arithmetic.div seconds (Arithmetic.ofNat 60)

/-- The tokens after filling up for a time, never more than the capacity. -/
def refill (capacity : Nat) (tokens : α) (nanoseconds : Nat) : α :=
  let full : α := Arithmetic.ofNat capacity
  let filled := Arithmetic.add tokens (Arithmetic.mul (minutes nanoseconds) full)
  if Arithmetic.less filled full then filled else full

/-- A new client is let through and keeps the rest of a full bucket. -/
def Bucket.first (capacity : Nat) (now : Int) : Bucket α :=
  ⟨Arithmetic.sub (Arithmetic.ofNat capacity) (Arithmetic.ofNat 1), now⟩

/-- Fills the bucket up and takes a token out if there is a whole one. -/
def Bucket.spend (capacity : Nat) (bucket : Bucket α) (now : Int) : Bool × Bucket α :=
  let tokens := refill capacity bucket.tokens (elapsed bucket.lastRefill now)
  if Arithmetic.less tokens (Arithmetic.ofNat 1) then (false, ⟨tokens, now⟩)
  else (true, ⟨Arithmetic.sub tokens (Arithmetic.ofNat 1), now⟩)

end

structure Buckets (α : Type) where
  capacity : Nat
  /-- Nanoseconds a client may be idle before its bucket is dropped. -/
  staleAfter : Nat
  clients : Table String (Bucket α)

namespace Buckets

variable {α : Type}

def empty (capacity staleAfter : Nat) : Buckets α :=
  ⟨capacity, staleAfter, .empty⟩

def spend [Arithmetic α] (buckets : Buckets α) (identity : String) (now : Int) :
    Bool × Buckets α :=
  match buckets.clients.get? identity with
  | none =>
    (true, { buckets with
      clients := buckets.clients.put identity (Bucket.first buckets.capacity now) })
  | some bucket =>
    let (allowed, bucket) := bucket.spend buckets.capacity now
    (allowed, { buckets with clients := buckets.clients.put identity bucket })

/-- Drops the clients that have been idle for longer than the threshold, and says how many. -/
def sweep (buckets : Buckets α) (now : Int) : Nat × Buckets α :=
  let kept := buckets.clients.filter fun _ bucket =>
    decide (elapsed bucket.lastRefill now ≤ buckets.staleAfter)
  (buckets.clients.size - kept.size, { buckets with clients := kept })

def size (buckets : Buckets α) : Nat :=
  buckets.clients.size

end Buckets

end Gatehouse.Throttle
