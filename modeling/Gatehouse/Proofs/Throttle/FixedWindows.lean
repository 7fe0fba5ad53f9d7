import Mathlib.Data.List.TakeWhile
import Gatehouse.Proofs.Throttle.SharedRuns

/-!
# Fixed windows

The shared gate counts in windows: the first request opens one, every window
lasts its length from its opening on, and the first request after that opens the
next.  Within a window the first requests are let through, as many as the
capacity, and no others.  Windows do not overlap, so a stretch of time no longer
than one meets two of them at most.
-/

set_option autoImplicit false

namespace Gatehouse.Throttle

open Service

/-! ## Windows of requests -/

/-- The requests of a client, cut into windows: each one starts with a request and holds all that
come before its length is over. -/
def windows : List Nat → List (List Nat)
  | [] => []
  | opening :: rest =>
    (opening :: rest.takeWhile fun now => decide (now < opening + windowLength)) ::
      windows (rest.dropWhile fun now => decide (now < opening + windowLength))
  termination_by requests => requests.length
  decreasing_by exact Nat.lt_succ_of_le (List.dropWhile_sublist _).length_le

/-- The decisions on a window of which so many requests are over. -/
def decideFrom (capacity before : Nat) (window : List Nat) : List (Int × Bool) :=
  window.mapIdx fun position (now : Nat) => ((now : Int), decide (before + position < capacity))

/-- The first requests of a window are let through, as many as the capacity. -/
def decideWindow (capacity : Nat) (window : List Nat) : List (Int × Bool) :=
  window.mapIdx fun position (now : Nat) => ((now : Int), decide (position < capacity))

theorem decideFrom_zero (capacity : Nat) (window : List Nat) :
    decideFrom capacity 0 window = decideWindow capacity window := by
  simp only [decideFrom, decideWindow, Nat.zero_add]

theorem decideFrom_cons (capacity before now : Nat) (window : List Nat) :
    decideFrom capacity before (now :: window) =
      ((now : Int), decide (before < capacity)) :: decideFrom capacity (before + 1) window := by
  simp only [decideFrom, List.mapIdx_cons, Nat.add_zero, Nat.add_assoc, Nat.add_comm 1]

/-! ## The counter counts windows -/

/-- A counter that has counted so many requests of its window. -/
def counter (capacity opening requests : Nat) : Cache.Window :=
  ⟨min requests capacity, opening, windowLength⟩

theorem closed_counter (capacity opening requests now : Nat) :
    (counter capacity opening requests).closed now = decide (opening + windowLength ≤ now) := by
  show decide (now - opening ≥ windowLength) = decide (opening + windowLength ≤ now)
  rw [decide_eq_decide, windowLength]
  omega

theorem live_counter (capacity opening requests now : Nat) :
    Cache.live (some (counter capacity opening requests)) windowLength now =
      if now < opening + windowLength then counter capacity opening requests
      else counter capacity now 0 := by
  rw [Cache.live, closed_counter]
  by_cases within : now < opening + windowLength
  · rw [if_pos within, if_neg (by simpa using within)]
  · rw [if_neg within, if_pos (by simpa using within), counter, Nat.zero_min]

theorem counted_counter (capacity opening requests : Nat) :
    Cache.Memory.Window.counted (counter capacity opening requests) capacity =
      counter capacity opening (requests + 1) := by
  by_cases share : min requests capacity < capacity
  · have more : min requests capacity + 1 = min (requests + 1) capacity := by omega
    rw [Cache.Memory.Window.counted, counter, if_pos share, more, counter]
  · have full : min requests capacity = min (requests + 1) capacity := by omega
    rw [Cache.Memory.Window.counted, counter, if_neg share, full, counter]

theorem decide_counter (capacity opening requests : Nat) :
    decide ((counter capacity opening requests).count < capacity) =
      decide (requests < capacity) := by
  show decide (min requests capacity < capacity) = decide (requests < capacity)
  rw [decide_eq_decide]
  omega

/-- With an open window, the counter lets the rest of the window's share through and then counts the
windows that follow. -/
theorem countAll_counter (capacity opening requests : Nat) (instants : List Nat) :
    countAll capacity (some (counter capacity opening requests)) instants =
      decideFrom capacity requests
          (instants.takeWhile fun now => decide (now < opening + windowLength)) ++
        (windows (instants.dropWhile fun now => decide (now < opening + windowLength))).flatMap
          (decideWindow capacity) := by
  induction instants generalizing opening requests with
  | nil => simp [countAll, windows, decideFrom]
  | cons now rest ih =>
      rw [countAll]
      simp only [live_counter]
      by_cases within : now < opening + windowLength
      · simp only [if_pos within, counted_counter, decide_counter, ih]
        simp [within, decideFrom_cons]
      · simp only [if_neg within, counted_counter, decide_counter, ih]
        rw [List.takeWhile_cons_of_neg (by simpa using within),
          List.dropWhile_cons_of_neg (by simpa using within), windows, List.flatMap_cons,
          ← decideFrom_zero, decideFrom_cons]
        rfl

theorem countAll_windows (capacity : Nat) (instants : List Nat) :
    countAll capacity none instants =
      (windows instants).flatMap (decideWindow capacity) := by
  cases instants with
  | nil => simp [countAll, windows]
  | cons opening rest =>
      have opened : Cache.live none windowLength opening = counter capacity opening 0 := by
        simp [Cache.live, counter]
      simp only [countAll, opened, counted_counter, decide_counter, countAll_counter]
      simp [windows, ← decideFrom_zero, decideFrom_cons]

/-! ## Two windows in a stretch of time -/

/-- How many requests are let through from `start` on and before `stop`, in nanoseconds. -/
def admittedWithin (start stop : Int) (decisions : List (Int × Bool)) : Nat :=
  decisions.countP fun decision =>
    decision.2 && decide (start ≤ decision.1) && decide (decision.1 < stop)

theorem decideWindow_instants (capacity : Nat) (window : List Nat) (decision : Int × Bool)
    (member : decision ∈ decideWindow capacity window) :
    ∃ now ∈ window, decision.1 = now := by
  obtain ⟨position, bound, rfl⟩ := List.mem_mapIdx.mp member
  exact ⟨_, List.getElem_mem bound, rfl⟩

theorem admittedWithin_outside (start stop : Int) (decisions : List (Int × Bool))
    (outside : ∀ decision ∈ decisions, decision.1 < start ∨ stop ≤ decision.1) :
    admittedWithin start stop decisions = 0 := by
  rw [admittedWithin, List.countP_eq_zero]
  intro decision member counted
  simp only [Bool.and_eq_true, decide_eq_true_eq] at counted
  rcases outside decision member with early | late
  · omega
  · omega

theorem countP_decideFrom_le (capacity before : Nat) (window : List Nat) :
    (decideFrom capacity before window).countP Prod.snd ≤ capacity - before := by
  induction window generalizing before with
  | nil => exact Nat.zero_le _
  | cons now rest ih =>
      have tail := ih (before + 1)
      rw [decideFrom_cons, List.countP_cons]
      by_cases share : before < capacity
      · simp only [share, decide_true, if_true]
        omega
      · simp only [share, decide_false, Bool.false_eq_true, if_false]
        omega

theorem admittedWithin_window_le (capacity : Nat) (start stop : Int) (window : List Nat) :
    admittedWithin start stop (decideWindow capacity window) ≤ capacity := by
  calc admittedWithin start stop (decideWindow capacity window)
      ≤ (decideWindow capacity window).countP Prod.snd := by
        refine List.countP_mono_left fun decision _ counted => ?_
        simp only [Bool.and_eq_true] at counted
        exact counted.1.1
    _ ≤ capacity := by
        have share := countP_decideFrom_le capacity 0 window
        rwa [decideFrom_zero, Nat.sub_zero] at share

theorem admittedWithin_append (start stop : Int) (first second : List (Int × Bool)) :
    admittedWithin start stop (first ++ second) =
      admittedWithin start stop first + admittedWithin start stop second :=
  List.countP_append

theorem le_of_mem_dropWhile (bound : Nat) (instants : List Nat)
    (ordered : instants.Pairwise fun earlier later => earlier ≤ later) (now : Nat)
    (member : now ∈ instants.dropWhile fun now => decide (now < bound)) : bound ≤ now := by
  induction instants with
  | nil => cases member
  | cons first rest ih =>
      rw [List.pairwise_cons] at ordered
      by_cases early : first < bound
      · rw [List.dropWhile_cons_of_pos (by simpa using early)] at member
        exact ih ordered.2 member
      · rw [List.dropWhile_cons_of_neg (by simpa using early)] at member
        rcases List.mem_cons.mp member with rfl | later
        · omega
        · have after := ordered.1 now later
          omega

theorem flatten_windows (instants : List Nat) : (windows instants).flatten = instants := by
  induction instants using windows.induct with
  | case1 => simp [windows]
  | case2 opening rest ih =>
      rw [windows, List.flatten_cons, ih, List.cons_append, List.takeWhile_append_dropWhile]

section

variable (capacity : Nat) (start : Int)

theorem admittedWithin_late (stop : Int) (instants : List Nat)
    (late : ∀ now ∈ instants, stop ≤ (now : Int)) :
    admittedWithin start stop ((windows instants).flatMap (decideWindow capacity)) = 0 := by
  refine admittedWithin_outside start stop _ fun decision member => Or.inr ?_
  obtain ⟨window, inside, decided⟩ := List.mem_flatMap.mp member
  obtain ⟨now, within, same⟩ := decideWindow_instants capacity window decision decided
  have asked : now ∈ instants := by
    rw [← flatten_windows instants]
    exact List.mem_flatten.mpr ⟨window, inside, within⟩
  rw [same]
  exact late now asked

theorem admittedWithin_onward (instants : List Nat)
    (ordered : instants.Pairwise fun earlier later => earlier ≤ later)
    (onward : ∀ now ∈ instants, start ≤ (now : Int)) :
    admittedWithin start (start + windowLength)
      ((windows instants).flatMap (decideWindow capacity)) ≤ capacity := by
  cases instants with
  | nil => simp [windows, admittedWithin]
  | cons opening rest =>
      rw [List.pairwise_cons] at ordered
      have opens := onward opening List.mem_cons_self
      have next := admittedWithin_late capacity start (start + windowLength)
        (rest.dropWhile fun now => decide (now < opening + windowLength)) fun now member => by
          have after := le_of_mem_dropWhile _ _ ordered.2 now member
          omega
      rw [windows, List.flatMap_cons, admittedWithin_append, next]
      exact admittedWithin_window_le capacity _ _ _

/-- Whatever stretch of the length of a window is looked at, two windows take it up. -/
theorem admittedWithin_windows_le (instants : List Nat)
    (ordered : instants.Pairwise fun earlier later => earlier ≤ later) :
    admittedWithin start (start + windowLength)
      ((windows instants).flatMap (decideWindow capacity)) ≤ 2 * capacity := by
  induction instants using windows.induct with
  | case1 => simp [windows, admittedWithin]
  | case2 opening rest ih =>
      rw [List.pairwise_cons] at ordered
      have follows : (rest.dropWhile fun now => decide (now < opening + windowLength)).Pairwise
          fun earlier later => earlier ≤ later := ordered.2.sublist (List.dropWhile_sublist _)
      have after := fun now member =>
        le_of_mem_dropWhile (opening + windowLength) rest ordered.2 now member
      rw [windows, List.flatMap_cons, admittedWithin_append]
      by_cases ended : (opening : Int) + windowLength ≤ start
      · -- the first window ends before the stretch begins
        have none := admittedWithin_outside start (start + windowLength)
          (decideWindow capacity
            (opening :: rest.takeWhile fun now => decide (now < opening + windowLength)))
          fun decision member => by
            obtain ⟨now, within, same⟩ := decideWindow_instants capacity _ decision member
            rw [same]
            refine Or.inl (Int.lt_of_lt_of_le ?_ ended)
            rcases List.mem_cons.mp within with rfl | early
            · rw [windowLength]
              omega
            · have before := List.mem_takeWhile_imp early
              simp only [decide_eq_true_eq] at before
              omega
        rw [none, Nat.zero_add]
        exact ih follows
      · have first := admittedWithin_window_le capacity start (start + windowLength)
          (opening :: rest.takeWhile fun now => decide (now < opening + windowLength))
        have second := admittedWithin_onward capacity start _ follows fun now member => by
          have later := after now member
          omega
        omega

end

/-! ## Any run -/

/-- Whatever else the cache is used for, a client that has no counter yet is let through as the
windows of its requests say, and not more than twice the capacity in any stretch of the length of a
window. -/
theorem fixed_windows {ν : Type} [Arithmetic ν] (surroundings : Surroundings)
    (healthy : surroundings.cache = .healthy) (capacity limit : Nat) (identity : String)
    (world : World ν)
    (fresh : world.cache.windows.get? (Cache.Key.rateLimit identity) = none)
    (errands : List Errand)
    (ordered : (errands.map Errand.now).Pairwise fun earlier later => earlier ≤ later)
    (apart : ∀ errand ∈ errands, errand.Avoids (Cache.Key.rateLimit identity)) :
    decisionsOf identity (sharedRun surroundings capacity limit world errands).1 =
        (windows (requestsOf identity errands)).flatMap (decideWindow capacity) ∧
      ∀ start : Int, admittedWithin start (start + windowLength)
        (decisionsOf identity (sharedRun surroundings capacity limit world errands).1) ≤
          2 * capacity := by
  have counted := decisionsOf_sharedRun surroundings capacity limit healthy identity errands world
    none 0 (Or.inl fresh) (List.pairwise_cons.mpr ⟨fun _ _ => Nat.zero_le _, ordered⟩) apart
  rw [countAll_windows] at counted
  refine ⟨counted, fun start => ?_⟩
  rw [counted]
  refine admittedWithin_windows_le capacity start _ ?_
  exact requestsOf_ordered identity errands ordered

/-- One request a window, and a cache that prunes whenever it may: the second request comes in the last
nanosecond of the first window, the third opens the next. -/
theorem fixed_windows_boundary :
    let surroundings : Surroundings :=
      ⟨.healthy, .healthy, true, .plain "", fun _ => 0, fun _ => ⟨0⟩⟩
    let world : World Rat := .start .epoch 0 ⟨1, 0, .empty⟩
    let errands : List Errand :=
      [.enter "ada" 0, .use (.delete "captcha:7") 5, .enter "bob" 30000000000,
        .enter "ada" 59999999999, .enter "ada" 60000000000]
    surroundings.cache = .healthy ∧
      world.cache.windows.get? (Cache.Key.rateLimit "ada") = none ∧
      ((errands.map Errand.now).Pairwise fun earlier later => earlier ≤ later) ∧
      (∀ errand ∈ errands, errand.Avoids (Cache.Key.rateLimit "ada")) ∧
      decisionsOf "ada" (sharedRun surroundings 1 1000 world errands).1 =
        [(0, true), (59999999999, false), (60000000000, true)] := by
  intro surroundings world errands
  have fresh : world.cache.windows.get? (Cache.Key.rateLimit "ada") = none := rfl
  have ordered : (errands.map Errand.now).Pairwise fun earlier later => earlier ≤ later := by
    simp [errands, Errand.now]
  have apart : ∀ errand ∈ errands, errand.Avoids (Cache.Key.rateLimit "ada") := by
    simp [errands, Errand.Avoids, CacheCall.key?, Cache.Key.rateLimit]
  have asked : requestsOf "ada" errands = [0, 59999999999, 60000000000] := by decide
  refine ⟨rfl, fresh, ordered, apart, ?_⟩
  rw [(fixed_windows surroundings rfl 1 1000 "ada" world fresh errands ordered apart).1, asked]
  simp [windows, windowLength, decideWindow]

end Gatehouse.Throttle
