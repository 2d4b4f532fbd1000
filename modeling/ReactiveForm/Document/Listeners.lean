import ReactiveForm.Document.Control
import ReactiveForm.Document.Tree

/-!
# `ReactiveForm.Document.Listeners` — who listens to which event of which node

Listeners are numbered from 1 in the order in which they are attached, and a number is never given
twice, also not after its listener has been detached.

## Contents
- `Listener` and `Listeners`, with `attach`, `detach` and `idsFor`.
-/

namespace ReactiveForm

/-- A listener, known by its number. -/
structure ListenerId where
  number : Nat
  deriving DecidableEq, Repr

/-- A listener to an event of a node. -/
structure Listener where
  id : ListenerId
  node : NodeId
  event : Event
  deriving DecidableEq, Repr

/-- The listeners that are attached, in the order of their numbers, and the next number. -/
structure Listeners where
  live : List Listener
  next : Nat
  ascending : live.Pairwise fun a b => a.id.number < b.id.number
  below : ∀ l ∈ live, l.id.number < next
  deriving DecidableEq, Repr

namespace Listeners

/-- No listeners yet. -/
def none : Listeners := ⟨[], 1, List.Pairwise.nil, by simp⟩

/-- One more listener; its number is the `next` of the old ones. -/
def attach (ls : Listeners) (node : NodeId) (event : Event) : Listeners where
  live := ls.live ++ [⟨⟨ls.next⟩, node, event⟩]
  next := ls.next + 1
  ascending := by
    refine List.pairwise_append.mpr ⟨ls.ascending, List.pairwise_singleton _ _, fun a ha b hb => ?_⟩
    rw [List.mem_singleton.mp hb]
    exact ls.below a ha
  below l hl := by
    rcases List.mem_append.mp hl with h | h
    · exact Nat.lt_succ_of_lt (ls.below l h)
    · rw [List.mem_singleton.mp h]
      exact Nat.lt_succ_self _

/-- The listeners without one. -/
def detach (ls : Listeners) (id : ListenerId) : Listeners where
  live := ls.live.filter (·.id != id)
  next := ls.next
  ascending := ls.ascending.filter _
  below l hl := ls.below l (List.mem_filter.mp hl).1

/-- Whether a listener is attached. -/
def isLive (ls : Listeners) (id : ListenerId) : Bool := ls.live.any (·.id == id)

/-- The listeners to an event of a node. -/
def idsFor (ls : Listeners) (node : NodeId) (event : Event) : List ListenerId :=
  (ls.live.filter fun l => l.node == node && l.event == event).map Listener.id

/-- How many listeners are attached. -/
def count (ls : Listeners) : Nat := ls.live.length

end Listeners

end ReactiveForm
