/-!
# Dialogues

A computation that puts questions to another party and goes on from the answers. It is a
tree: either a result, or a question and a continuation for each answer. What the other
party is, and when it answers, is left open, so one dialogue can be held with a store in
memory, with a remote one, or with any list of answers, and dialogues can be interleaved
question by question.

    (hold answer s (x >>= f)) is hold answer s x, then f       (hold_bind)
-/

namespace Turnstile

inductive Dialogue (Q R α : Type) where
  | done (a : α)
  | ask (question : Q) (next : R → Dialogue Q R α)

namespace Dialogue

variable {Q R α β γ σ : Type}

def bind : Dialogue Q R α → (α → Dialogue Q R β) → Dialogue Q R β
  | .done a, f => f a
  | .ask q next, f => .ask q fun r => (next r).bind f

instance : Monad (Dialogue Q R) where
  pure := .done
  bind := bind

/-- Puts one question. -/
def put (q : Q) : Dialogue Q R R := .ask q .done

/-- How a dialogue went. -/
structure Record (Q R α σ : Type) where
  result : α
  /-- Each question with its answer, in order. -/
  exchanges : List (Q × R)
  state : σ

/-- Holds a dialogue with a party that answers from a state. -/
def hold (answer : σ → Q → R × σ) : σ → Dialogue Q R α → Record Q R α σ
  | s, .done a => ⟨a, [], s⟩
  | s, .ask q next =>
    let (r, s) := answer s q
    let rest := hold answer s (next r)
    ⟨rest.result, (q, r) :: rest.exchanges, rest.state⟩

/-! ## Lemmas -/

theorem bind_done (x : Dialogue Q R α) : x.bind .done = x := by
  induction x with
  | done a => rfl
  | ask q next ih => simp only [bind]; congr 1; funext r; exact ih r

theorem bind_assoc (x : Dialogue Q R α) (f : α → Dialogue Q R β) (g : β → Dialogue Q R γ) :
    (x.bind f).bind g = x.bind fun a => (f a).bind g := by
  induction x with
  | done a => rfl
  | ask q next ih => simp only [bind]; congr 1; funext r; exact ih r

instance : LawfulMonad (Dialogue Q R) := LawfulMonad.mk' (Dialogue Q R)
  (fun x => bind_done x) (fun _ _ => rfl) (fun x f g => bind_assoc x f g)

@[simp] theorem pure_eq (a : α) : (pure a : Dialogue Q R α) = .done a := rfl

@[simp] theorem done_bind (a : α) (f : α → Dialogue Q R β) : (Dialogue.done a >>= f) = f a := rfl

@[simp] theorem ask_bind (q : Q) (next : R → Dialogue Q R α) (f : α → Dialogue Q R β) :
    (Dialogue.ask q next >>= f) = .ask q fun r => next r >>= f := rfl

@[simp] theorem hold_done (answer : σ → Q → R × σ) (s : σ) (a : α) :
    hold answer s (.done a) = ⟨a, [], s⟩ := rfl

theorem hold_ask (answer : σ → Q → R × σ) (s : σ) (q : Q) (next : R → Dialogue Q R α) :
    hold answer s (.ask q next) =
      ⟨(hold answer (answer s q).2 (next (answer s q).1)).result,
       (q, (answer s q).1) :: (hold answer (answer s q).2 (next (answer s q).1)).exchanges,
       (hold answer (answer s q).2 (next (answer s q).1)).state⟩ := rfl

/-- A dialogue in two parts is held part after part. -/
theorem hold_bind (answer : σ → Q → R × σ) (s : σ) (x : Dialogue Q R α)
    (f : α → Dialogue Q R β) :
    hold answer s (x >>= f) =
      ⟨(hold answer (hold answer s x).state (f (hold answer s x).result)).result,
       (hold answer s x).exchanges ++
         (hold answer (hold answer s x).state (f (hold answer s x).result)).exchanges,
       (hold answer (hold answer s x).state (f (hold answer s x).result)).state⟩ := by
  induction x generalizing s with
  | done a => rfl
  | ask q next ih =>
    rw [ask_bind, hold_ask, hold_ask]
    simp only [ih, List.cons_append]

end Dialogue

end Turnstile
