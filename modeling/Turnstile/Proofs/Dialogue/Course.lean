import Turnstile.Dialogue

/-!
# Courses of a dialogue

A dialogue taken apart from the party it is held with. A course is one way through the
tree: the questions put, each with an answer, and the result at the end. What a party does
is then only to choose among the courses (`Answered`).

    hold answer s x = ⟨a, xs, t⟩ ↔ Answered answer s xs t ∧ x.Course xs a       (hold_eq_iff)
    (x >>= f).Course zs b ↔ a course of x, then one of f                        (course_bind_iff)
-/

namespace Turnstile.Dialogue

variable {Q R α β σ : Type}

/-- Through these exchanges the dialogue comes to this result. -/
inductive Course : Dialogue Q R α → List (Q × R) → α → Prop
  | done (a : α) : Course (.done a) [] a
  | ask {q : Q} {r : R} {next : R → Dialogue Q R α} {xs : List (Q × R)} {a : α} :
      Course (next r) xs a → Course (.ask q next) ((q, r) :: xs) a

/-- Asked these questions in turn, a party gives these answers, and ends in state `t`. -/
inductive Answered (answer : σ → Q → R × σ) : σ → List (Q × R) → σ → Prop
  | nil (s : σ) : Answered answer s [] s
  | cons {s t : σ} {q : Q} {xs : List (Q × R)} :
      Answered answer (answer s q).2 xs t → Answered answer s ((q, (answer s q).1) :: xs) t

/-! ## Lemmas -/

@[simp] theorem course_done_iff (a b : α) (xs : List (Q × R)) :
    (Dialogue.done a).Course xs b ↔ xs = [] ∧ b = a := by
  constructor
  · rintro ⟨⟩
    exact ⟨rfl, rfl⟩
  · rintro ⟨rfl, rfl⟩
    exact .done b

@[simp] theorem course_ask_iff (q : Q) (next : R → Dialogue Q R α) (zs : List (Q × R)) (a : α) :
    (Dialogue.ask q next).Course zs a ↔ ∃ r xs, zs = (q, r) :: xs ∧ (next r).Course xs a := by
  constructor
  · rintro (_ | h)
    exact ⟨_, _, rfl, h⟩
  · rintro ⟨r, xs, rfl, h⟩
    exact .ask h

theorem course_bind_iff (x : Dialogue Q R α) (f : α → Dialogue Q R β) (zs : List (Q × R)) (b : β) :
    (x >>= f).Course zs b ↔
      ∃ xs a ys, zs = xs ++ ys ∧ x.Course xs a ∧ (f a).Course ys b := by
  induction x generalizing zs with
  | done a =>
    rw [done_bind]
    constructor
    · intro h
      exact ⟨[], a, zs, rfl, .done a, h⟩
    · rintro ⟨xs, a', ys, rfl, hx, hf⟩
      obtain ⟨rfl, rfl⟩ := (course_done_iff _ _ _).1 hx
      exact hf
  | ask q next ih =>
    rw [ask_bind, course_ask_iff]
    constructor
    · rintro ⟨r, zs, rfl, h⟩
      obtain ⟨xs, a, ys, rfl, hx, hf⟩ := (ih r zs).1 h
      exact ⟨(q, r) :: xs, a, ys, rfl, .ask hx, hf⟩
    · rintro ⟨xs, a, ys, rfl, hx, hf⟩
      obtain ⟨r, xs, rfl, hnext⟩ := (course_ask_iff _ _ _ _).1 hx
      exact ⟨r, xs ++ ys, rfl, (ih r _).2 ⟨xs, a, ys, rfl, hnext, hf⟩⟩

/-- What is made of the outcome asks nothing. -/
theorem course_bind_done_iff (x : Dialogue Q R α) (f : α → β) (xs : List (Q × R)) (b : β) :
    (x >>= fun a => .done (f a)).Course xs b ↔ ∃ a, b = f a ∧ x.Course xs a := by
  rw [course_bind_iff]
  constructor
  · rintro ⟨ys, a, zs, rfl, hx, hf⟩
    obtain ⟨rfl, rfl⟩ := (course_done_iff _ _ _).1 hf
    exact ⟨a, rfl, by rwa [List.append_nil]⟩
  · rintro ⟨a, rfl, hx⟩
    exact ⟨xs, a, [], (List.append_nil xs).symm, hx, .done _⟩

theorem answered_nil_iff (answer : σ → Q → R × σ) (s t : σ) :
    Answered answer s [] t ↔ t = s := by
  constructor
  · rintro ⟨⟩
    rfl
  · rintro rfl
    exact .nil t

theorem answered_cons_iff (answer : σ → Q → R × σ) (s t : σ) (q : Q) (r : R)
    (xs : List (Q × R)) :
    Answered answer s ((q, r) :: xs) t ↔
      r = (answer s q).1 ∧ Answered answer (answer s q).2 xs t := by
  constructor
  · rintro (_ | h)
    exact ⟨rfl, h⟩
  · rintro ⟨rfl, h⟩
    exact .cons h

theorem answered_append {answer : σ → Q → R × σ} {s t u : σ} {xs ys : List (Q × R)}
    (hx : Answered answer s xs t) (hy : Answered answer t ys u) :
    Answered answer s (xs ++ ys) u := by
  induction hx with
  | nil s => exact hy
  | cons _ ih => exact .cons (ih hy)

/-- **Holding a dialogue is taking the course that the party's answers choose.** -/
theorem hold_eq_iff (answer : σ → Q → R × σ) (s t : σ) (x : Dialogue Q R α) (a : α)
    (xs : List (Q × R)) :
    hold answer s x = ⟨a, xs, t⟩ ↔ Answered answer s xs t ∧ x.Course xs a := by
  induction x generalizing s xs with
  | done b =>
    rw [hold_done, course_done_iff]
    constructor
    · rintro ⟨⟩
      exact ⟨.nil t, rfl, rfl⟩
    · rintro ⟨h, rfl, rfl⟩
      rw [(answered_nil_iff _ _ _).1 h]
  | ask q next ih =>
    rw [hold_ask, course_ask_iff]
    constructor
    · intro h
      obtain ⟨ha, hx, ht⟩ := Record.mk.inj h
      obtain ⟨hans, hcourse⟩ := (ih (answer s q).1 (answer s q).2 _).1
        (by rw [← ha, ← ht] : hold answer (answer s q).2 (next (answer s q).1) = ⟨a, _, t⟩)
      rw [← hx]
      exact ⟨.cons hans, _, _, rfl, hcourse⟩
    · rintro ⟨h, r, ys, rfl, hcourse⟩
      obtain ⟨rfl, hans⟩ := (answered_cons_iff _ _ _ _ _ _).1 h
      rw [(ih _ _ _).2 ⟨hans, hcourse⟩]

end Turnstile.Dialogue
