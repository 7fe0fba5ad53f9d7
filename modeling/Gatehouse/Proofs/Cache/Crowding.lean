import Gatehouse.Proofs.Cache.Pruning

/-!
# How many counters are kept

A cache with more counters than its capacity holds none that has been closed for
long: the second that has to pass between two prunings is all that a closed
counter can gain.  What carries this is that every counter in the cache was open
at the last pruning or has been opened since (`Tidy`).  Prunings are stamped with
whole milliseconds, so the second is counted from the stamp and not from the
pruning; the rounding makes it shorter, never longer.
-/

set_option autoImplicit false

namespace Gatehouse

open Cache (Window neverPruned pruneStamp pruneSpacing millisecond)

namespace Cache

/-- Instants before this one are stamped with their milliseconds, and none of them as never. -/
def stampEnd : Nat := (neverPruned - 1) * millisecond

theorem pruneStamp_eq (now : Nat) (inTime : now < stampEnd) : pruneStamp now = now / millisecond := by
  have small : now / millisecond < neverPruned - 1 := Nat.div_lt_of_lt_mul (by
    rwa [Nat.mul_comm])
  rw [pruneStamp, if_pos (by omega)]

/-- Where the stamps are less than a second apart, so are the instants. -/
theorem lt_of_stamps (pruned now : Nat)
    (near : now / millisecond - pruned / millisecond < pruneSpacing) :
    now < pruned + pruneSpacing * millisecond := by
  simp only [millisecond, pruneSpacing] at near ⊢
  omega

theorem Window.lt_of_open (window : Window) (now : Nat) (isOpen : window.closed now = false) :
    now < window.openedAt + window.length := by
  rw [Window.closed, decide_eq_false_iff_not] at isOpen
  omega

namespace Memory

/-- Every counter was open at the last pruning or has been opened since. -/
def Tidy (now : Nat) (memory : Memory) : Prop :=
  memory.lastPrune = neverPruned ∨
    ∃ pruned, pruned ≤ now ∧ memory.lastPrune = pruneStamp pruned ∧
      ∀ key window, memory.windows.get? key = some window →
        pruned < window.openedAt + window.length

theorem Tidy.later (memory : Memory) (now later : Nat) (tidy : memory.Tidy now)
    (ordered : now ≤ later) : memory.Tidy later := by
  rcases tidy with never | ⟨pruned, before, stamp, ends⟩
  · exact Or.inl never
  · exact Or.inr ⟨pruned, Nat.le_trans before ordered, stamp, ends⟩

/-! ## Pruning -/

theorem prune_cases (memory : Memory) (now : Nat) :
    (memory.prune now = { memory with
        windows := memory.windows.filter fun _ window => !window.closed now
        lastPrune := pruneStamp now }) ∨
      (memory.capacity < memory.windows.size → memory.pruneDue now = false) ∧
        memory.prune now = memory := by
  rw [prune]
  split
  · exact Or.inl rfl
  · rename_i spared
    refine Or.inr ⟨fun crowded => ?_, rfl⟩
    simpa [crowded] using spared

@[simp] theorem capacity_prune (memory : Memory) (now : Nat) :
    (memory.prune now).capacity = memory.capacity := by
  rw [prune]
  split <;> rfl

/-- After a pruning, and where none was due, every counter of a crowded cache has been open within
the last second. -/
theorem Tidy.recent (memory : Memory) (now : Nat) (inTime : now < stampEnd)
    (tidy : memory.Tidy now) (spared : memory.pruneDue now = false) :
    ∀ key window, memory.windows.get? key = some window →
      now < window.openedAt + window.length + pruneSpacing * millisecond := by
  intro key window found
  rw [pruneDue, Bool.or_eq_false_iff, beq_eq_false_iff_ne, decide_eq_false_iff_not] at spared
  rcases tidy with never | ⟨pruned, before, stamp, ends⟩
  · exact absurd never spared.1
  · have near := spared.2
    rw [stamp, pruneStamp_eq now inTime, pruneStamp_eq pruned (by omega)] at near
    have within := lt_of_stamps pruned now (by omega)
    have after := ends key window found
    omega

theorem Tidy.prune (memory : Memory) (now : Nat) (inTime : now < stampEnd)
    (tidy : memory.Tidy now) :
    (memory.prune now).Tidy now ∧
      (memory.capacity < (memory.prune now).windows.size →
        ∀ key window, (memory.prune now).windows.get? key = some window →
          now < window.openedAt + window.length + pruneSpacing * millisecond) := by
  rcases memory.prune_cases now with pruned | ⟨spared, same⟩
  · have ends : ∀ key window, (memory.prune now).windows.get? key = some window →
        now < window.openedAt + window.length := by
      intro key window found
      rw [pruned, Table.get?_filter, Option.filter_eq_some_iff] at found
      exact window.lt_of_open now (by simpa using found.2)
    refine ⟨Or.inr ⟨now, Nat.le_refl _, by rw [pruned], ends⟩, fun _ key window found => ?_⟩
    have after := ends key window found
    omega
  · rw [same]
    exact ⟨tidy, fun crowded => tidy.recent memory now inTime (spared crowded)⟩

/-! ## Counting -/

theorem counted_span (window : Window) (cap : Nat) :
    (Window.counted window cap).openedAt = window.openedAt ∧
      (Window.counted window cap).length = window.length := by
  rw [Window.counted]
  split
  · exact ⟨rfl, rfl⟩
  · exact ⟨rfl, rfl⟩

theorem current_cases (memory : Memory) (key : String) (length now : Nat) :
    (memory.current key length now = ⟨0, now, length⟩ ∧
        ∀ window, memory.windows.get? key = some window → window.closed now = true) ∨
      memory.windows.get? key = some (memory.current key length now) := by
  rw [current]
  cases memory.windows.get? key with
  | none => exact Or.inl ⟨rfl, fun window found => by cases found⟩
  | some window =>
      by_cases closed : window.closed now = true
      · refine Or.inl ⟨if_pos closed, fun other found => ?_⟩
        rwa [← Option.some.inj found]
      · exact Or.inr (congrArg some (if_neg closed).symm)

theorem Tidy.put (memory : Memory) (key : String) (cap length now : Nat) (lasting : 0 < length)
    (tidy : memory.Tidy now) :
    Tidy now { memory with
      windows := memory.windows.put key (Window.counted (memory.current key length now) cap) } := by
  rcases tidy with never | ⟨pruned, before, stamp, ends⟩
  · exact Or.inl never
  · refine Or.inr ⟨pruned, before, stamp, fun other window found => ?_⟩
    rw [Table.get?_put] at found
    split at found
    · obtain rfl := Option.some.inj found
      obtain ⟨opened, length⟩ := counted_span (memory.current key length now) cap
      rw [opened, length]
      rcases memory.current_cases key _ now with ⟨new, -⟩ | held
      · rw [new]
        dsimp only
        omega
      · exact ends key _ held
    · exact ends other window found

theorem Tidy.increment (memory : Memory) (key : String) (cap length now : Nat)
    (lasting : 0 < length) (inTime : now < stampEnd) (tidy : memory.Tidy now) :
    let after := (memory.increment key cap length now).2
    after.Tidy now ∧
      (memory.capacity < after.windows.size → ∀ other window,
        after.windows.get? other = some window →
          now < window.openedAt + window.length + pruneSpacing * millisecond) :=
  (tidy.put memory key cap length now lasting).prune _ now inTime

theorem Tidy.delete (memory : Memory) (key : String) (now : Nat) (tidy : memory.Tidy now) :
    (memory.delete key).Tidy now := by
  rcases tidy with never | ⟨pruned, before, stamp, ends⟩
  · exact Or.inl never
  · refine Or.inr ⟨pruned, before, stamp, fun other window found => ends other window ?_⟩
    rw [Memory.delete, Table.get?_erase] at found
    split at found
    · cases found
    · exact found

/-! ## Open windows -/

/-- The same window, which may have counted more. -/
structure Continues (window kept : Window) : Prop where
  openedAt : kept.openedAt = window.openedAt
  length : kept.length = window.length
  count : window.count ≤ kept.count

theorem continues_counted (window : Window) (cap : Nat) :
    Continues window (Window.counted window cap) := by
  rw [Window.counted]
  split
  · exact ⟨rfl, rfl, Nat.le_succ _⟩
  · exact ⟨rfl, rfl, Nat.le_refl _⟩

theorem increment_keeps_open (memory : Memory) (key : String) (cap length now : Nat)
    (other : String) (window : Window) (found : memory.windows.get? other = some window)
    (isOpen : window.closed now = false) :
    ∃ kept, (memory.increment key cap length now).2.windows.get? other = some kept ∧
      Continues window kept := by
  have spared : ∀ held : Window, Continues window held →
      Pruned now (some held) ((memory.increment key cap length now).2.windows.get? other) →
      ∃ kept, (memory.increment key cap length now).2.windows.get? other = some kept ∧
        Continues window kept := by
    intro held goesOn pruned
    rcases pruned with same | ⟨-, closed⟩
    · exact ⟨held, same, goesOn⟩
    · have ended := closed held rfl
      rw [Window.closed, goesOn.openedAt, goesOn.length, ← Window.closed, isOpen] at ended
      cases ended
  have step := memory.pruned_increment key cap length now other
  by_cases own : other = key
  · subst own
    rw [if_pos rfl, found, live, if_neg (by rw [isOpen]; exact Bool.false_ne_true)] at step
    exact spared _ (continues_counted window cap) step
  · rw [if_neg own, found] at step
    exact spared window ⟨rfl, rfl, Nat.le_refl _⟩ step

end Memory

end Cache

/-! ## Any run -/

namespace Service

/-- The length of the window that an increment opens. -/
def CacheCall.window? : {α : Type} → CacheCall α → Option Nat
  | _, .increment _ _ length => some length
  | _, _ => none

def CacheCall.deletes (key : String) : {α : Type} → CacheCall α → Bool
  | _, .delete other => other == key
  | _, _ => false

namespace World

variable {ν : Type} (health : Bool)

def carryAll (world : World ν) (uses : List Use) : World ν :=
  uses.foldl (fun world use => (world.carryOut health use).2) world

section

variable (world : World ν) (use : Use)

theorem capacity_carryOut :
    (world.carryOut health use).2.cache.capacity = world.cache.capacity := by
  obtain ⟨call, now, valueNow⟩ := use
  cases call with
  | increment key cap length => exact Cache.Memory.capacity_prune _ now
  | _ => rfl

theorem tidy_carryOut (lasting : ∀ length, use.call.window? = some length → 0 < length)
    (inTime : use.now < Cache.stampEnd) (tidy : world.cache.Tidy use.now) :
    (world.carryOut health use).2.cache.Tidy use.now := by
  obtain ⟨call, now, valueNow⟩ := use
  cases call with
  | increment key cap length =>
      exact (tidy.increment world.cache key cap length now (lasting length rfl) inTime).1
  | delete key => exact tidy.delete world.cache key now
  | get key => exact tidy
  | set key value lifetime => exact tidy
  | take key => exact tidy
  | «exists» key => exact tidy
  | health => exact tidy

theorem recent_carryOut (lasting : ∀ length, use.call.window? = some length → 0 < length)
    (inTime : use.now < Cache.stampEnd) (tidy : world.cache.Tidy use.now)
    (increments : use.call.window?.isSome = true)
    (crowded : world.cache.capacity < (world.carryOut health use).2.cache.windows.size) :
    ∀ key window, (world.carryOut health use).2.cache.windows.get? key = some window →
      use.now < window.openedAt + window.length + pruneSpacing * millisecond := by
  obtain ⟨call, now, valueNow⟩ := use
  cases call with
  | increment key cap length =>
      exact (tidy.increment world.cache key cap length now (lasting length rfl) inTime).2 crowded
  | _ => cases increments

theorem open_carryOut (key : String) (window : Window)
    (found : world.cache.windows.get? key = some window)
    (isOpen : window.closed use.now = false) (spared : use.call.deletes key = false) :
    ∃ kept, (world.carryOut health use).2.cache.windows.get? key = some kept ∧
      Cache.Memory.Continues window kept := by
  have untouched : ∃ kept, world.cache.windows.get? key = some kept ∧
      Cache.Memory.Continues window kept := ⟨window, found, rfl, rfl, Nat.le_refl _⟩
  obtain ⟨call, now, valueNow⟩ := use
  cases call with
  | increment other cap length =>
      exact world.cache.increment_keeps_open other cap length now key window found isOpen
  | delete other =>
      have apart : key ≠ other := fun same => by
        rw [CacheCall.deletes, same, beq_self_eq_true] at spared
        cases spared
      simp only [carryOut, cacheWork, Cache.Memory.delete, Table.get?_erase, if_neg apart]
      exact untouched
  | get other => exact untouched
  | set other value lifetime => exact untouched
  | take other => exact untouched
  | «exists» other => exact untouched
  | health => exact untouched

end

theorem tidy_carryAll (uses : List Use) (start later : Nat) (world : World ν)
    (tidy : world.cache.Tidy start)
    (ordered : (start :: (uses.map Use.now ++ [later])).Pairwise fun earlier later =>
      earlier ≤ later)
    (lasting : ∀ use ∈ uses, ∀ length, use.call.window? = some length → 0 < length)
    (inTime : ∀ use ∈ uses, use.now < Cache.stampEnd) :
    (world.carryAll health uses).cache.capacity = world.cache.capacity ∧
      (world.carryAll health uses).cache.Tidy later := by
  induction uses generalizing start world with
  | nil =>
      rw [List.map_nil, List.nil_append, List.pairwise_cons] at ordered
      exact ⟨rfl, tidy.later _ start later (ordered.1 later List.mem_cons_self)⟩
  | cons use rest ih =>
      rw [List.map_cons, List.cons_append, List.pairwise_cons] at ordered
      have here := tidy.later _ start use.now (ordered.1 use.now List.mem_cons_self)
      have next := world.tidy_carryOut health use (lasting use List.mem_cons_self)
        (inTime use List.mem_cons_self) here
      obtain ⟨capacity, last⟩ := ih use.now (world.carryOut health use).2 next ordered.2
        (fun other member => lasting other (List.mem_cons_of_mem _ member))
        (fun other member => inTime other (List.mem_cons_of_mem _ member))
      exact ⟨capacity.trans (world.capacity_carryOut health use), last⟩

end World

/-- Whatever calls a cache gets from when it is made, at instants that do not go back and that 64 bits
of milliseconds hold, with windows that have a length: whenever an increment leaves more counters
behind than the capacity, each of them belongs to a window that was open within the last second; and
no call takes away a counter whose window is open then, except by deleting its key. -/
theorem crowded_counters_recent {ν : Type} (health : Bool) (capacity : Nat) (world : World ν)
    (fresh : world.cache = .empty capacity) (earlier : List Use) (use : Use)
    (ordered : ((earlier ++ [use]).map Use.now).Pairwise fun earlier later => earlier ≤ later)
    (lasting : ∀ other ∈ earlier ++ [use], ∀ length,
      other.call.window? = some length → 0 < length)
    (inTime : ∀ other ∈ earlier ++ [use], other.now < Cache.stampEnd) :
    let before := world.carryAll health earlier
    let after := (before.carryOut health use).2
    (use.call.window?.isSome = true → capacity < after.cache.windows.size →
      ∀ key window, after.cache.windows.get? key = some window →
        use.now < window.openedAt + window.length + pruneSpacing * millisecond) ∧
      ∀ key window, before.cache.windows.get? key = some window →
        window.closed use.now = false → use.call.deletes key = false →
        ∃ kept, after.cache.windows.get? key = some kept ∧
          Cache.Memory.Continues window kept := by
  intro before after
  have last : use ∈ earlier ++ [use] := List.mem_append_right _ List.mem_cons_self
  have none : world.cache.Tidy 0 := Or.inl (by rw [fresh]; rfl)
  rw [List.map_append] at ordered
  obtain ⟨same, tidy⟩ := world.tidy_carryAll health earlier 0 use.now none
    (List.pairwise_cons.mpr ⟨fun _ _ => Nat.zero_le _, ordered⟩)
    (fun other member => lasting other (List.mem_append_left _ member))
    (fun other member => inTime other (List.mem_append_left _ member))
  constructor
  · intro increments crowded
    refine before.recent_carryOut health use (lasting use last) (inTime use last) tidy increments ?_
    rw [same, fresh]
    exact crowded
  · intro key window found isOpen spared
    exact before.open_carryOut health use key window found isOpen spared

/-- Room for one counter, and a first pruning at one millisecond: ada's counter closes a nanosecond
after it and is still there one nanosecond before the stamp lets the next pruning through. -/
theorem crowded_counters_recent_rounding :
    let world : World Rat := .start .epoch 1 ⟨1, 0, .empty⟩
    let earlier : List Use :=
      [⟨.increment "ada" 5 1000001, 0, 0⟩, ⟨.delete "eve", 7, 0⟩,
        ⟨.increment "bob" 5 60000000000, 1000000, 0⟩]
    let use : Use := ⟨.increment "cyd" 5 1, 1000999999, 0⟩
    let after := ((world.carryAll true earlier).carryOut true use).2.cache
    world.cache = .empty 1 ∧
      (((earlier ++ [use]).map Use.now).Pairwise fun earlier later => earlier ≤ later) ∧
      (∀ other ∈ earlier ++ [use], ∀ length, other.call.window? = some length → 0 < length) ∧
      (∀ other ∈ earlier ++ [use], other.now < Cache.stampEnd) ∧
      after.windows.get? "ada" = some ⟨1, 0, 1000001⟩ ∧
      use.now < 0 + 1000001 + pruneSpacing * millisecond ∧
      ∃ kept, after.windows.get? "bob" = some kept ∧
        Cache.Memory.Continues ⟨1, 1000000, 60000000000⟩ kept := by
  intro world earlier use after
  have ordered : ((earlier ++ [use]).map Use.now).Pairwise fun earlier later => earlier ≤ later := by
    simp [earlier, use]
  have lasting : ∀ other ∈ earlier ++ [use], ∀ length,
      other.call.window? = some length → 0 < length := by
    simp [earlier, use, CacheCall.window?]
  have inTime : ∀ other ∈ earlier ++ [use], other.now < Cache.stampEnd := by
    simp [earlier, use, Cache.stampEnd, neverPruned, millisecond]
  obtain ⟨recent, kept⟩ := crowded_counters_recent true 1 world rfl earlier use ordered lasting inTime
  have held : after.windows.get? "ada" = some ⟨1, 0, 1000001⟩ := by decide +kernel
  exact ⟨rfl, ordered, lasting, inTime, held, recent rfl (by decide +kernel) "ada" _ held,
    kept "bob" _ (by decide +kernel) (by decide) rfl⟩

end Service

end Gatehouse
