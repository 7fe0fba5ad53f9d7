import Gatehouse.Throttle.Bucket

/-!
# The sweeper

A task that sweeps idle buckets on the ticks of a clock until it is told to
stop.  The first tick comes one interval after the start.  Ticks that were missed
are made up for by one late tick, and the next one comes an interval after it.
-/

set_option autoImplicit false

namespace Gatehouse.Throttle

structure Sweeper where
  /-- Nanoseconds between two ticks. -/
  interval : Nat
  nextTick : Nat
  stopped : Bool
  deriving DecidableEq, Repr

namespace Sweeper

/-- Starts at an instant.  Without a positive interval there is nothing to wait for. -/
def start (interval now : Nat) : Sweeper :=
  ⟨interval, now + interval, interval == 0⟩

def stop (sweeper : Sweeper) : Sweeper :=
  { sweeper with stopped := true }

/-- Nanoseconds by which a tick may be late without moving the ticks after it. -/
def tolerance : Nat := 5000000

/-- The tick after one that is handled at `now`: one interval after it was due, or one interval
after `now` if it is too late for that. -/
def following (sweeper : Sweeper) (now : Nat) : Nat :=
  if now > sweeper.nextTick + tolerance then now + sweeper.interval
  else sweeper.nextTick + sweeper.interval

def due (sweeper : Sweeper) (now : Nat) : Bool :=
  !sweeper.stopped && decide (sweeper.nextTick ≤ now)

def tick {α : Type} (now : Nat) (sweeper : Sweeper) (buckets : Buckets α) :
    Sweeper × Buckets α :=
  ({ sweeper with nextTick := sweeper.following now }, (buckets.sweep now).2)

def settle {α : Type} (now : Nat) : Nat → Sweeper → Buckets α → Sweeper × Buckets α
  | 0, sweeper, buckets => (sweeper, buckets)
  | fuel + 1, sweeper, buckets =>
    if sweeper.due now then
      let (sweeper, buckets) := tick now sweeper buckets
      settle now fuel sweeper buckets
    else (sweeper, buckets)

/-- The clock jumps to an instant: whatever is due is handled there.  A tick that is due with others
behind it is late, so few are handled. -/
def jump {α : Type} (now : Nat) (sweeper : Sweeper) (buckets : Buckets α) :
    Sweeper × Buckets α :=
  settle now (tolerance + 2) sweeper buckets

/-- Handles every tick up to an instant, each at its own time. -/
def passTicks {α : Type} (deadline : Nat) : Nat → Sweeper → Buckets α → Sweeper × Buckets α
  | 0, sweeper, buckets => (sweeper, buckets)
  | fuel + 1, sweeper, buckets =>
    if sweeper.due deadline then
      let (sweeper, buckets) := tick sweeper.nextTick sweeper buckets
      passTicks deadline fuel sweeper buckets
    else (sweeper, buckets)

/-- The clock runs up to an instant, and every tick on the way is handled in time. -/
def sleep {α : Type} (deadline : Nat) (sweeper : Sweeper) (buckets : Buckets α) :
    Sweeper × Buckets α :=
  passTicks deadline ((deadline - sweeper.nextTick) / sweeper.interval + 1) sweeper buckets

/-- A signal on the shutdown channel: only `true` stops. -/
def signal (value : Bool) (sweeper : Sweeper) : Sweeper :=
  if value then sweeper.stop else sweeper

end Sweeper

end Gatehouse.Throttle
