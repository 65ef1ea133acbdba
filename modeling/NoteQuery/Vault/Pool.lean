import Mathlib.Logic.Relation

/-!
# Worker pools

A caller hands a list of items to some workers that share them. The items wait in their order. A free
worker takes the item that has waited longest, and any worker that has one may be the next to finish
it. The caller collects the results in the order of the items, each as soon as it is there. Which of
these steps comes next is left open.
-/

namespace NoteQuery

/-- A pool at work. Every item is kept with its place among all items. -/
structure Pool (α β : Type) where
  waiting : List (α × Nat)
  running : List (α × Nat) := []
  finished : List (Nat × β) := []
  collected : List β := []

namespace Pool

variable {α β : Type}

def start (xs : List α) : Pool α β where
  waiting := xs.zipIdx

/-- The steps of a pool whose workers make `f x` of an item `x`. -/
inductive Step (workers : Nat) (f : α → β) : Pool α β → Pool α β → Prop
  | take {p : Pool α β} {item : α × Nat} {rest : List (α × Nat)}
      (next : p.waiting = item :: rest) (free : p.running.length < workers) :
      Step workers f p { p with waiting := rest, running := item :: p.running }
  | finish {p : Pool α β} {x : α} {i : Nat} {front back : List (α × Nat)}
      (running : p.running = front ++ (x, i) :: back) :
      Step workers f p { p with running := front ++ back, finished := (i, f x) :: p.finished }
  | collect {p : Pool α β} {y : β} (ready : p.finished.lookup p.collected.length = some y) :
      Step workers f p { p with collected := p.collected ++ [y] }

/-- What the caller has once it has collected a result for every item. -/
def Maps (workers : Nat) (f : α → β) (xs : List α) (ys : List β) : Prop :=
  ∃ p, Relation.ReflTransGen (Step workers f) (start xs) p ∧ p.collected.length = xs.length ∧
    ys = p.collected

end Pool

end NoteQuery
