import Gatehouse.Cache.Memory
import Gatehouse.Proofs.Cache.Keys
import Gatehouse.Proofs.Table

/-!
# Counters of requests

What the counter of one key does while the cache is used.  Pruning drops a
counter only when it is closed, and a closed counter decides the next request as
an absent one does; so a counter that may have been pruned (`Pruned`) is as good
as the counter itself (`Pruned.live_eq`).
-/

set_option autoImplicit false

namespace Gatehouse.Cache

theorem Window.closed_later (window : Window) (now later : Nat) (ordered : now ≤ later)
    (ended : window.closed now = true) : window.closed later = true := by
  simp only [Window.closed, decide_eq_true_eq] at ended ⊢
  omega

/-- The window that counts a request, by the counter that is held. -/
def live (held : Option Window) (length now : Nat) : Window :=
  match held with
  | some window => if window.closed now then ⟨0, now, length⟩ else window
  | none => ⟨0, now, length⟩

/-- What may be found of a counter: itself, or nothing once it is closed. -/
def Pruned (now : Nat) (held found : Option Window) : Prop :=
  found = held ∨ found = none ∧ ∀ window, held = some window → window.closed now = true

namespace Pruned

variable (now : Nat) (held found : Option Window) (pruned : Pruned now held found)

include pruned

theorem later (later : Nat) (ordered : now ≤ later) : Pruned later held found := by
  rcases pruned with same | ⟨gone, closed⟩
  · exact Or.inl same
  · exact Or.inr ⟨gone, fun window is =>
      window.closed_later now later ordered (closed window is)⟩

theorem trans (kept : Option Window) (again : Pruned now found kept) : Pruned now held kept := by
  rcases again with rfl | ⟨gone, closed⟩
  · exact pruned
  · rcases pruned with rfl | ⟨rfl, before⟩
    · exact Or.inr ⟨gone, closed⟩
    · exact Or.inr ⟨gone, before⟩

/-- A counter that was dropped is opened anew by the next request, and so is a closed one. -/
theorem live_eq (length : Nat) : live found length now = live held length now := by
  rcases pruned with rfl | ⟨rfl, closed⟩
  · rfl
  · cases held with
    | none => rfl
    | some window => rw [live, live, if_pos (closed window rfl)]

end Pruned

namespace Memory

theorem pruned_prune (memory : Memory) (now : Nat) (key : String) :
    Pruned now (memory.windows.get? key) ((memory.prune now).windows.get? key) := by
  rw [prune]
  split
  · rw [Table.get?_filter]
    cases memory.windows.get? key with
    | none => exact Or.inl rfl
    | some window =>
        by_cases closed : window.closed now = true
        · refine Or.inr ⟨by simp [Option.filter, closed], fun other same => ?_⟩
          obtain rfl := Option.some.inj same
          exact closed
        · exact Or.inl (by simp [Option.filter, closed])
  · exact Or.inl rfl

theorem pruned_increment (memory : Memory) (key : String) (cap length now : Nat) (other : String) :
    Pruned now
      (if other = key then
        some (Window.counted (live (memory.windows.get? key) length now) cap)
      else memory.windows.get? other)
      ((memory.increment key cap length now).2.windows.get? other) := by
  have counted := pruned_prune
    { memory with
      windows := memory.windows.put key (Window.counted (memory.current key length now) cap) }
    now other
  rw [Table.get?_put] at counted
  exact counted

end Memory

end Gatehouse.Cache
