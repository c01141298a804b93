import Turnstile.Store.Redis

/-!
# Rehearsed answers

A store and a server that answer from a list, whatever they are asked. They stand in for
the real ones where one wants to see how the rest copes with an answer.
-/

namespace Turnstile

/-- Answers of a store still to come, for each kind of call. -/
structure Rehearsal where
  increments : List StoreAnswer
  reads : List StoreAnswer

namespace Rehearsal

/-- The reason given when no answer is left. -/
def exhausted : String := "script exhausted"

/-- The front of a list of answers, and the rest. -/
def pop {α : Type} (last : α) : List α → α × List α
  | [] => (last, [])
  | a :: r => (a, r)

def answer (s : Rehearsal) : StoreCall → StoreAnswer × Rehearsal
  | .increment .. =>
    let (a, r) := pop (.error (.unavailable exhausted)) s.increments
    (a, { s with increments := r })
  | .read _ =>
    let (a, r) := pop (.error (.unavailable exhausted)) s.reads
    (a, { s with reads := r })

/-- The delivery for a command, and those still to come. -/
def deliver (pending : List Delivery) (_ : Command) : Delivery × List Delivery :=
  pop ⟨.error exhausted, 0⟩ pending

end Rehearsal

end Turnstile
