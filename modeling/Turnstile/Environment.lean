/-!
# The environment

Variables with a text value. One whose value is not text counts as not set.
-/

namespace Turnstile

structure Environment where
  bindings : List (String × String)

namespace Environment

def get? (e : Environment) (name : String) : Option String := e.bindings.lookup name

/-- The environment with a variable set, unless it is set already. -/
def setDefault (e : Environment) (name value : String) : Environment :=
  match e.get? name with
  | some _ => e
  | none => ⟨(name, value) :: e.bindings⟩

theorem get?_setDefault (e : Environment) (name value other : String) :
    (e.setDefault name value).get? other =
      if other = name then some ((e.get? name).getD value) else e.get? other := by
  unfold setDefault
  by_cases h : other = name
  · subst h
    cases hg : e.get? other
    · simp [get?]
    · simp [hg]
  · cases hg : e.get? name
    · simp [get?, List.lookup_cons, beq_false_of_ne h, h]
    · simp [h]

end Environment

end Turnstile
