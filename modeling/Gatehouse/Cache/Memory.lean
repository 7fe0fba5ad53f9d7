import Gatehouse.Table

/-!
# The cache in memory

Values with a time to live, and counters of requests in fixed windows.  The two
live side by side: a counter is opened by the first request of its window and
never slides, and closed counters are pruned only when there are more than the
capacity, at most once a second.

Instants of the counters are nanoseconds since the cache was made; instants of
the values are nanoseconds on a clock of their own.
-/

set_option autoImplicit false

namespace Gatehouse.Cache

/-- A value and the instant from which on it is not seen any more. -/
structure TimedValue where
  value : String
  deadline : Nat
  deriving DecidableEq, Repr

structure Window where
  count : Nat
  openedAt : Nat
  length : Nat
  deriving DecidableEq, Repr

/-- A window is closed once its whole length has passed. -/
def Window.closed (window : Window) (now : Nat) : Bool :=
  decide (now - window.openedAt ≥ window.length)

def millisecond : Nat := 1000000

/-- Least distance of two prunings, in milliseconds. -/
def pruneSpacing : Nat := 1000

/-- The stamp of a pruning that has never been: the greatest number of 64 bits. -/
def neverPruned : Nat := 18446744073709551615

/-- An instant in whole milliseconds, with a stand-in for those that 64 bits do not hold. -/
def pruneStamp (now : Nat) : Nat :=
  if now / millisecond ≤ neverPruned then now / millisecond else neverPruned - 1

structure Memory where
  capacity : Nat
  values : Table String TimedValue
  windows : Table String Window
  /-- The stamp of the last pruning. -/
  lastPrune : Nat

namespace Memory

def empty (capacity : Nat) : Memory :=
  ⟨capacity, .empty, .empty, neverPruned⟩

/-! ## Values -/

/-- The value of a key that has not run out. -/
def get (memory : Memory) (key : String) (now : Nat) : Option String :=
  match memory.values.get? key with
  | some timed => if now < timed.deadline then some timed.value else none
  | none => none

def set (memory : Memory) (key value : String) (lifetime now : Nat) : Memory :=
  { memory with values := memory.values.put key ⟨value, now + lifetime⟩ }

/-- Reads and removes a key in one step.  What is still held is given out, whether it has run out or
not. -/
def take (memory : Memory) (key : String) : Option String × Memory :=
  ((memory.values.get? key).map TimedValue.value,
    { memory with values := memory.values.erase key })

def delete (memory : Memory) (key : String) : Memory :=
  { memory with values := memory.values.erase key, windows := memory.windows.erase key }

def exists? (memory : Memory) (key : String) (now : Nat) : Bool :=
  (memory.get key now).isSome

/-! ## Counters -/

/-- The window that counts a request at `now`: the open one, or a new one. -/
def current (memory : Memory) (key : String) (length now : Nat) : Window :=
  match memory.windows.get? key with
  | some window => if window.closed now then ⟨0, now, length⟩ else window
  | none => ⟨0, now, length⟩

/-- Counts a request unless the count has reached `cap`. -/
def Window.counted (window : Window) (cap : Nat) : Window :=
  if window.count < cap then { window with count := window.count + 1 } else window

/-- There has been no pruning yet, or the last one is long enough ago. -/
def pruneDue (memory : Memory) (now : Nat) : Bool :=
  memory.lastPrune == neverPruned ||
    decide (pruneStamp now - memory.lastPrune ≥ pruneSpacing)

/-- Drops the closed windows, if there are too many and it is time to. -/
def prune (memory : Memory) (now : Nat) : Memory :=
  if memory.windows.size > memory.capacity && memory.pruneDue now then
    { memory with
      windows := memory.windows.filter fun _ window => !window.closed now
      lastPrune := pruneStamp now }
  else memory

/-- Counts a request in the window of its key, up to `cap`, and gives the count before it. -/
def increment (memory : Memory) (key : String) (cap length now : Nat) : Nat × Memory :=
  let window := memory.current key length now
  (window.count,
    { memory with windows := memory.windows.put key (Window.counted window cap) }.prune now)

end Memory

end Gatehouse.Cache
