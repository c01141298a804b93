import Turnstile.Store.Memory
import Turnstile.Store.Rehearsed

/-!
# Stores to choose from

Any of the stores behind one interface, with a record of what was asked of it and, for a
remote one, of the commands sent. Time on the clock of the store in memory passes only when
it is told to.
-/

namespace Turnstile

inductive Backend where
  | memory (table : Memory) (now : Instant)
  | rehearsed (answers : Rehearsal)
  | redis (client : Redis) (pending : List Delivery)

/-- What was seen of a store at work. -/
inductive StoreEvent where
  | sent (command : Command)
  | called (call : StoreCall) (answer : StoreAnswer)

namespace Backend

def fresh : Backend := .memory .empty 0

/-- The answer to a call, the commands sent for it, and the store after it. -/
def answer : Backend → StoreCall → StoreAnswer × List Command × Backend
  | .memory table now, call =>
    let (a, table) := table.answer now call
    (a, [], .memory table now)
  | .rehearsed answers, call =>
    let (a, answers) := answers.answer call
    (a, [], .rehearsed answers)
  | .redis client pending, call =>
    let r := Dialogue.hold Rehearsal.deliver pending (client.answer call)
    (r.result.1, r.exchanges.map Prod.fst, .redis r.result.2 r.state)

/-- A store with the record of its work. -/
structure Watched where
  backend : Backend
  events : List StoreEvent

/-- The answer to a call. The call is recorded after the commands sent for it. -/
def Watched.answer (w : Watched) (call : StoreCall) : StoreAnswer × Watched :=
  let (a, commands, backend) := w.backend.answer call
  (a, ⟨backend, w.events ++ commands.map .sent ++ [.called call a]⟩)

/-- Runs a computation on a store, and gives its result and the events. -/
def run {α : Type} (b : Backend) (x : Counting α) : α × List StoreEvent × Backend :=
  let r := Dialogue.hold Watched.answer ⟨b, []⟩ x
  (r.result, r.state.events, r.state.backend)

/-- Runs a computation so many times, one after the other, and gives the results. -/
def repeated {α : Type} : Nat → Backend → Counting α → List α × Backend
  | 0, b, _ => ([], b)
  | n + 1, b, x =>
    let (a, _, b) := b.run x
    let (rest, b) := repeated n b x
    (a :: rest, b)

/-- The store when so many nanoseconds have passed. -/
def wait (nanos : Nat) : Backend → Backend
  | .memory table now => .memory table (now + nanos)
  | b => b

end Backend

end Turnstile
