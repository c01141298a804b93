import Turnstile.Proofs.Text.Numerals
import Turnstile.Store.Redis

/-!
# What a reply says

What can be made of a reply of the server, told by the reply alone. In the place of a number
it may be an integer, or a text that spells one; in the place of a text an integer will do as
well. A reply that says nothing of the kind is a fault with a text of its own, and an error is
one in any place. A reader of replies keeps to a sense if it reads just what replies say, and
fails with that text where they say nothing.

    Reads Reply.count? .numberOrNil     (reads_count?)
    Reads Reply.count .number           (reads_count)
    Reads Reply.digest .text            (reads_digest)
-/

namespace Turnstile

open Turnstile.Text

/-- What replies say in the place of a value of some kind. -/
structure Sense (α : Type) where
  Says : Reply → α → Prop
  /-- The reply says nothing of the kind, which is a fault with this text. -/
  Lacks : Reply → String → Prop

/-- The text that a reply is, or the usual one of an integer. -/
def Reply.text? : Reply → Option String
  | .text s => some s
  | .int n => some (toString n.toInt)
  | .nil | .error _ => none

namespace Sense

/-- A number of 64 bits, as such or spelled in a text. -/
def number : Sense Int64 where
  Says
    | .int m, n => n = m
    | .text s, n => Decimal.Signed s.toList n.toInt
    | .nil, _ | .error _, _ => False
  Lacks
    | .int _, _ => False
    | .text s, why => (∀ n : Int64, ¬ Decimal.Signed s.toList n.toInt) ∧
        why = "Parse Error: Invalid integer string."
    | .nil, why => why = "Not Found: Cannot convert nil to number."
    | .error reason, why => why = "Unknown Error: " ++ reason

/-- A number, where nil says that there is none. -/
def numberOrNil : Sense (Option Int64) where
  Says r
    | some n => number.Says r n
    | none => r = .nil
  Lacks r why := r ≠ .nil ∧ number.Lacks r why

def text : Sense String where
  Says r s := r.text? = some s
  Lacks
    | .int _, _ | .text _, _ => False
    | .nil, why => why = "Parse Error: Could not convert to string."
    | .error reason, why => why = "Unknown Error: " ++ reason

end Sense

/-- A reader keeps to a sense. -/
structure Reads {α : Type} (read : Reply → Except ClientFault α) (sense : Sense α) : Prop where
  ok_iff : ∀ r a, read r = .ok a ↔ sense.Says r a
  error_iff : ∀ r why, (∃ f, read r = .error f ∧ f.message = why) ↔ sense.Lacks r why

/-! ## Lemmas -/

namespace Reads

variable {α : Type} {read : Reply → Except ClientFault α} {sense : Sense α} {r : Reply}

/-- A reply says one thing at most. -/
theorem says_inj (h : Reads read sense) {a b : α} (ha : sense.Says r a) (hb : sense.Says r b) :
    a = b :=
  Except.ok.inj (((h.ok_iff r a).2 ha).symm.trans ((h.ok_iff r b).2 hb))

theorem not_says (h : Reads read sense) {why : String} (hlacks : sense.Lacks r why) (a : α) :
    ¬ sense.Says r a := by
  intro hsays
  obtain ⟨f, hf, -⟩ := (h.error_iff r why).2 hlacks
  rw [(h.ok_iff r a).2 hsays] at hf
  cases hf

end Reads

namespace Sense

theorem number_says_text_iff (s : String) (n : Int64) :
    number.Says (.text s) n ↔ Decimal.readInt64? s.toList = some n :=
  (Decimal.readInt64?_eq_some_iff _ _).symm

theorem number_lacks_text_iff (s : String) (why : String) : number.Lacks (.text s) why ↔
    Decimal.readInt64? s.toList = none ∧ why = "Parse Error: Invalid integer string." := by
  rw [Option.eq_none_iff_forall_ne_some]
  simp only [ne_eq, Decimal.readInt64?_eq_some_iff]
  rfl

end Sense

/-! ## The client's readers -/

theorem reads_count? : Reads Reply.count? .numberOrNil where
  ok_iff r n? := by
    cases r with
    | text s =>
      cases hread : Decimal.readInt64? s.toList <;> cases n? <;>
        simp [Reply.count?, Sense.numberOrNil, Sense.number_says_text_iff, hread]
    | _ => cases n? <;> simp [Reply.count?, Sense.numberOrNil, Sense.number, eq_comm]
  error_iff r why := by
    cases r with
    | text s =>
      cases hread : Decimal.readInt64? s.toList <;>
        simp [Reply.count?, Sense.numberOrNil, Sense.number_lacks_text_iff, hread,
          ClientFault.message, eq_comm]
    | _ => simp [Reply.count?, Sense.numberOrNil, Sense.number, ClientFault.message, eq_comm]

/-- Where nil is a fault too, the rest is as where it is allowed. -/
theorem reads_count : Reads Reply.count .number where
  ok_iff r n := by
    have hnumber : r.count? = .ok (some n) ↔ Sense.number.Says r n := reads_count?.ok_iff r (some n)
    rw [← hnumber, Reply.count]
    cases r.count? with
    | error f => simp
    | ok n? => cases n? <;> simp
  error_iff r why := by
    cases r with
    | text s =>
      cases hread : Decimal.readInt64? s.toList <;>
        simp [Reply.count, Reply.count?, Sense.number_lacks_text_iff, hread, ClientFault.message,
          eq_comm]
    | _ => simp [Reply.count, Reply.count?, Sense.number, ClientFault.message, eq_comm]

/-- Only an error of the server's is read as one. -/
theorem Reply.count_eq_refused_iff (reply : Reply) (reason : String) :
    reply.count = .error (.refused reason) ↔ reply = .error reason := by
  cases reply with
  | text s => cases hread : Decimal.readInt64? s.toList <;> simp [count, count?, hread]
  | _ => simp [count, count?]

theorem Reply.text?_of_lacks {r : Reply} {why : String} (h : Sense.text.Lacks r why) :
    r.text? = none := by
  cases r with
  | int n => exact h.elim
  | text s => exact h.elim
  | nil => rfl
  | error reason => rfl

theorem reads_digest : Reads Reply.digest .text where
  ok_iff r s := by
    cases r <;> simp [Reply.digest, Sense.text, Reply.text?, Decimal.ofInt_eq_toString]
  error_iff r why := by
    cases r <;> simp [Reply.digest, Sense.text, ClientFault.message, eq_comm]

end Turnstile
