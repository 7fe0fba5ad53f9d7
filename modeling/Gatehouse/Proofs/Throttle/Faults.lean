import Gatehouse.Proofs.Service.Runs
import Gatehouse.Throttle.Gate

/-!
# Faults of the cache at the gate

A cache that fails to count a request, or is too late to, lets the request pass
and holds the same counters as before.  So such requests can be taken out of a
run, and what remains is decided as it was (`faults_unfelt`): a request looks at
the counters and the clock, and at nothing else that a fault could have moved.
-/

set_option autoImplicit false

namespace Gatehouse.Throttle

open Service

/-- A request at the shared gate, and how the cache does when it is asked to count it. -/
structure Passage where
  identity : String
  now : Nat
  turn : Turn
  deriving DecidableEq, Repr

namespace Passage

/-- The cache fails, or does not answer within the limit. -/
def faulted (limit : Nat) (passage : Passage) : Bool :=
  decide (passage.turn.delay > limit) || passage.turn.failing.isSome

/-- When the cache counts the request. -/
def counted (passage : Passage) : Nat :=
  passage.now + passage.turn.delay * Cache.millisecond

end Passage

variable {ν : Type} [Arithmetic ν] (surroundings : Surroundings) (capacity limit : Nat)

/-- Lets a request pass or not, at its instant and with the cache as it is then. -/
def meet (world : World ν) (passage : Passage) : Bool × World ν :=
  (passShared capacity limit passage.identity).run
    { surroundings with cache := fun _ => passage.turn } { world with clock := passage.now }

/-- The requests one after the other, each with what is decided. -/
def meetAll : World ν → List Passage → List (Passage × Bool) × World ν
  | world, [] => ([], world)
  | world, passage :: rest =>
    let (allowed, world) := meet surroundings capacity limit world passage
    let (decided, world) := meetAll world rest
    ((passage, allowed) :: decided, world)

/-! ## One request -/

section

variable (world : World ν) (passage : Passage)

theorem meet_faulted (faulted : passage.faulted limit = true) :
    (meet surroundings capacity limit world passage).1 = true ∧
      (meet surroundings capacity limit world passage).2.cache = world.cache := by
  have asked : ∀ milliseconds, (World.wait { world with
      clock := passage.now, cacheCalls := world.cacheCalls + 1 } milliseconds).cache =
        world.cache := by
    intro milliseconds
    obtain ⟨clock, waited⟩ := World.wait_clock { world with
      clock := passage.now, cacheCalls := world.cacheCalls + 1 } milliseconds
    rw [waited]
  rw [meet, passShared, Flow.run_ask, World.answer, World.under]
  by_cases late : passage.turn.delay > limit
  · simp only [if_pos late]
    exact ⟨rfl, asked limit⟩
  · simp only [if_neg late]
    have fails : passage.turn.failing.isSome = true := by
      simpa only [Passage.faulted, late, decide_false, Bool.false_or] using faulted
    obtain ⟨failure, fails⟩ := Option.isSome_iff_exists.mp fails
    simp only [fails]
    exact ⟨rfl, asked passage.turn.delay⟩

theorem meet_counted (works : passage.faulted limit = false) :
    let counting := world.cache.increment (Cache.Key.rateLimit passage.identity) capacity
      windowLength passage.counted
    (meet surroundings capacity limit world passage).1 = decide (counting.1 < capacity) ∧
      (meet surroundings capacity limit world passage).2.cache = counting.2 := by
  simp only [Passage.faulted, Bool.or_eq_false_iff, decide_eq_false_iff_not,
    Option.isSome_eq_false_iff, Option.isNone_iff_eq_none] at works
  obtain ⟨inTime, works⟩ := works
  have asked : ∃ clock, World.wait { world with
      clock := passage.now, cacheCalls := world.cacheCalls + 1 } passage.turn.delay =
        { world with clock := clock, cacheCalls := world.cacheCalls + 1 } ∧
      clock = passage.counted := ⟨_, rfl, rfl⟩
  obtain ⟨clock, waited, reads⟩ := asked
  rw [meet, passShared, Flow.run_ask, World.answer, World.under, if_neg inTime, ← reads]
  simp only [works, waited]
  exact ⟨rfl, rfl⟩

theorem meet_same (other : World ν) (same : other.cache = world.cache) :
    (meet surroundings capacity limit other passage).1 =
        (meet surroundings capacity limit world passage).1 ∧
      (meet surroundings capacity limit other passage).2.cache =
        (meet surroundings capacity limit world passage).2.cache := by
  cases faulted : passage.faulted limit with
  | true =>
      obtain ⟨passes, kept⟩ := meet_faulted surroundings capacity limit world passage faulted
      obtain ⟨also, keptAlso⟩ := meet_faulted surroundings capacity limit other passage faulted
      exact ⟨also.trans passes.symm, keptAlso.trans (same.trans kept.symm)⟩
  | false =>
      obtain ⟨decided, counted⟩ := meet_counted surroundings capacity limit world passage faulted
      obtain ⟨also, countedAlso⟩ := meet_counted surroundings capacity limit other passage faulted
      rw [same] at also countedAlso
      exact ⟨also.trans decided.symm, countedAlso.trans counted.symm⟩

end

/-! ## Any run -/

theorem map_fst_meetAll (world : World ν) (passages : List Passage) :
    (meetAll surroundings capacity limit world passages).1.map Prod.fst = passages := by
  induction passages generalizing world with
  | nil => rfl
  | cons passage rest ih => exact congrArg (passage :: ·) (ih _)

theorem admitted_of_faulted (world : World ν) (passages : List Passage) :
    ∀ decided ∈ (meetAll surroundings capacity limit world passages).1,
      decided.1.faulted limit = true → decided.2 = true := by
  induction passages generalizing world with
  | nil => simp [meetAll]
  | cons passage rest ih =>
      intro decided member faulted
      rcases List.mem_cons.mp member with rfl | later
      · exact (meet_faulted surroundings capacity limit world passage faulted).1
      · exact ih _ decided later faulted

/-- Two runs of which one is without the faults keep the same counters, and decide the same. -/
theorem meetAll_spared (world other : World ν) (same : other.cache = world.cache)
    (passages : List Passage) :
    let all := meetAll surroundings capacity limit world passages
    let spared := meetAll surroundings capacity limit other
      (passages.filter fun passage => !passage.faulted limit)
    all.1.filter (fun decided => !decided.1.faulted limit) = spared.1 ∧
      all.2.cache = spared.2.cache := by
  induction passages generalizing world other with
  | nil => exact ⟨rfl, same.symm⟩
  | cons passage rest ih =>
      cases faulted : passage.faulted limit with
      | true =>
          have kept := (meet_faulted surroundings capacity limit world passage faulted).2
          have tail := ih (meet surroundings capacity limit world passage).2 other
            (same.trans kept.symm)
          simp only [meetAll, List.filter_cons, faulted, Bool.not_true, Bool.false_eq_true, if_false]
          exact tail
      | false =>
          obtain ⟨alike, sameAfter⟩ := meet_same surroundings capacity limit world passage other same
          have tail := ih (meet surroundings capacity limit world passage).2
            (meet surroundings capacity limit other passage).2 sameAfter
          simp only [meetAll, List.filter_cons, faulted, Bool.not_false, if_true, alike]
          exact ⟨congrArg _ tail.1, tail.2⟩

/-- Whatever requests the cache fails to count or is too late for: each of these is admitted, and all
others are decided as in the run without them, which also leaves the same counters behind.  So no
fault ever has a request rejected, or uses up or gives back what a client may still ask for. -/
theorem faults_unfelt (world : World ν) (passages : List Passage) :
    let all := meetAll surroundings capacity limit world passages
    let spared := meetAll surroundings capacity limit world
      (passages.filter fun passage => !passage.faulted limit)
    all.1.map Prod.fst = passages ∧
      (∀ decided ∈ all.1, decided.1.faulted limit = true → decided.2 = true) ∧
      all.1.filter (fun decided => !decided.1.faulted limit) = spared.1 ∧
      all.2.cache = spared.2.cache := by
  have spared := meetAll_spared surroundings capacity limit world world rfl passages
  exact ⟨map_fst_meetAll surroundings capacity limit world passages,
    admitted_of_faulted surroundings capacity limit world passages, spared.1, spared.2⟩

/-- One request a window: the cache is late and fails while the window is open, and is as late as it
may be when the next one opens. -/
example :
    let surroundings : Surroundings :=
      ⟨.healthy, .healthy, true, .plain "", fun _ => 0, fun _ => ⟨0⟩⟩
    let world : World Rat := .start .epoch 0 ⟨1, 0, .empty⟩
    let passages : List Passage :=
      [⟨"ada", 0, ⟨0, none⟩⟩, ⟨"ada", 5, ⟨51, none⟩⟩, ⟨"ada", 6, ⟨50, some .emailTaken⟩⟩,
        ⟨"ada", 7, ⟨0, none⟩⟩, ⟨"ada", 59950000000, ⟨50, none⟩⟩]
    (meetAll surroundings 1 50 world passages).1.map Prod.snd =
      [true, true, true, false, true] := by
  decide +kernel

end Gatehouse.Throttle
