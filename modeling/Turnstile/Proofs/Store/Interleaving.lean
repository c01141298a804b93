import Turnstile.Proofs.Store.Live

/-!
# Interleaved clients

Several clients hold dialogues with one store in memory. A client puts one question at a
time; between its questions any others may put theirs, other computations may call the store,
and the store may be purged. A run is a list of such moves, each at its instant, so every
interleaving is a run.

    a turn is a question, or nothing happens          (turn_cases)
    a client that has finished stays as it is         (getElem?_move_of_done)
    no client comes or goes                           (length_run)
-/

namespace Turnstile

inductive Move where
  /-- The client at this place puts its next question. -/
  | turn (client : Nat)
  /-- A call of another computation. -/
  | call (c : StoreCall)
  | purge
  deriving DecidableEq

/-- A question of a client, when it was put, and what the store answered. -/
structure Exchange where
  time : Instant
  client : Nat
  call : StoreCall
  answer : StoreAnswer

/-- A store with its clients, each somewhere in its dialogue. -/
structure Pool (α : Type) where
  memory : Memory
  clients : List (Counting α)
  /-- What the clients asked so far, in order. -/
  log : List Exchange

namespace Pool

variable {α : Type}

/-- No client has asked anything yet. -/
def start (m : Memory) (clients : List (Counting α)) : Pool α := ⟨m, clients, []⟩

/-- One question of the client `i`, which goes on with `next`. -/
def ask (p : Pool α) (t : Instant) (i : Nat) (q : StoreCall) (next : StoreAnswer → Counting α) :
    Pool α :=
  ⟨(p.memory.answer t q).2, p.clients.set i (next (p.memory.answer t q).1),
    p.log ++ [⟨t, i, q, (p.memory.answer t q).1⟩]⟩

/-- A turn of a client that has finished, or that does not exist, is none. -/
def move (p : Pool α) (t : Instant) : Move → Pool α
  | .turn i =>
    match p.clients[i]? with
    | some (.ask q next) => p.ask t i q next
    | _ => p
  | .call c => { p with memory := (p.memory.answer t c).2 }
  | .purge => { p with memory := (p.memory.purge t).2 }

def run (p : Pool α) (moves : List (Instant × Move)) : Pool α :=
  moves.foldl (fun p e => p.move e.1 e.2) p

/-! ## Lemmas -/

theorem run_cons (p : Pool α) (t : Instant) (v : Move) (rest : List (Instant × Move)) :
    p.run ((t, v) :: rest) = (p.move t v).run rest := rfl

theorem move_ask {p : Pool α} {i : Nat} {q : StoreCall} {next : StoreAnswer → Counting α}
    (h : p.clients[i]? = some (.ask q next)) (t : Instant) :
    p.move t (.turn i) = p.ask t i q next := by
  rw [move, h]

theorem move_idle {p : Pool α} {i : Nat} (h : ∀ q next, p.clients[i]? ≠ some (.ask q next))
    (t : Instant) : p.move t (.turn i) = p := by
  rw [move]
  split
  · next q next hi => exact absurd hi (h q next)
  · rfl

/-- A turn is a question of the client, or nothing happens. -/
theorem turn_cases (p : Pool α) (t : Instant) (i : Nat) :
    (∃ q next, p.clients[i]? = some (.ask q next) ∧ p.move t (.turn i) = p.ask t i q next) ∨
    (∀ q next, p.clients[i]? ≠ some (.ask q next)) ∧ p.move t (.turn i) = p := by
  by_cases h : ∃ q next, p.clients[i]? = some (.ask q next)
  · obtain ⟨q, next, hi⟩ := h
    exact Or.inl ⟨q, next, hi, move_ask hi t⟩
  · have hidle : ∀ q next, p.clients[i]? ≠ some (.ask q next) := fun q next hi => h ⟨q, next, hi⟩
    exact Or.inr ⟨hidle, move_idle hidle t⟩

/-- A client that has finished stays as it is. -/
theorem getElem?_move_of_done {p : Pool α} {i : Nat} {a : α} (h : p.clients[i]? = some (.done a))
    (t : Instant) (v : Move) : (p.move t v).clients[i]? = some (.done a) := by
  cases v with
  | call c => exact h
  | purge => exact h
  | turn j =>
    rcases p.turn_cases t j with ⟨q, next, hj, hmove⟩ | ⟨-, hmove⟩
    · have hne : j ≠ i := by
        rintro rfl
        rw [h] at hj
        cases hj
      rw [hmove]
      show (p.clients.set j _)[i]? = _
      rw [List.getElem?_set_ne hne, h]
    · rw [hmove, h]

theorem length_run (p : Pool α) (moves : List (Instant × Move)) :
    (p.run moves).clients.length = p.clients.length := by
  induction moves generalizing p with
  | nil => rfl
  | cons e rest ih =>
    obtain ⟨t, v⟩ := e
    have hmove : (p.move t v).clients.length = p.clients.length := by
      cases v with
      | call c => rfl
      | purge => rfl
      | turn i =>
        rcases p.turn_cases t i with ⟨q, next, -, hmove⟩ | ⟨-, hmove⟩
        · rw [hmove]
          exact List.length_set
        · rw [hmove]
    rw [run_cons, ih, hmove]

end Pool

end Turnstile
