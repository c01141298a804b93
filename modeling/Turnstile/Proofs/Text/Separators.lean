/-!
# Texts joined by separators

Where two texts agree, so do their parts before the first separator, those after the last
one, and the characters at their ends.

    x ++ sep :: a = y ++ sep :: b, sep not in x, y        x = y and a = b      (first_separator)
    x ++ sep :: a = y ++ sep :: b, sep not in a, b        x = y and a = b      (last_separator)
    x ++ a = y ++ b        a and b do not both have a character the other lacks (not_both_ends)
-/

namespace Turnstile.Text

theorem first_separator {sep : Char} {x y a b : List Char} (hx : sep ∉ x) (hy : sep ∉ y)
    (h : x ++ sep :: a = y ++ sep :: b) : x = y ∧ a = b := by
  induction x generalizing y with
  | nil =>
    cases y with
    | nil => exact ⟨rfl, (List.cons.inj h).2⟩
    | cons d y => exact absurd ((List.cons.inj h).1 ▸ List.mem_cons_self) hy
  | cons c x ih =>
    cases y with
    | nil => exact absurd ((List.cons.inj h).1 ▸ List.mem_cons_self) hx
    | cons d y =>
      obtain ⟨hc, hrest⟩ := List.cons.inj h
      obtain ⟨hxy, hab⟩ := ih (fun hmem => hx (List.mem_cons_of_mem _ hmem))
        (fun hmem => hy (List.mem_cons_of_mem _ hmem)) hrest
      exact ⟨by rw [hc, hxy], hab⟩

theorem last_separator {sep : Char} {x y a b : List Char} (ha : sep ∉ a) (hb : sep ∉ b)
    (h : x ++ sep :: a = y ++ sep :: b) : x = y ∧ a = b := by
  have hreverse : a.reverse ++ sep :: x.reverse = b.reverse ++ sep :: y.reverse := by
    have := congrArg List.reverse h
    simpa using this
  obtain ⟨hab, hxy⟩ := first_separator (by simpa using ha) (by simpa using hb) hreverse
  exact ⟨List.reverse_inj.1 hxy, List.reverse_inj.1 hab⟩

/-- Of two ends of one text, one is the end of the other. -/
theorem not_both_ends {x y a b : List Char} {c d : Char} (h : x ++ a = y ++ b) (hc : c ∈ a)
    (hcb : c ∉ b) (hd : d ∈ b) (hda : d ∉ a) : False := by
  rcases List.append_eq_append_iff.1 h with ⟨z, -, rfl⟩ | ⟨z, -, rfl⟩
  · exact hda (List.mem_append_right _ hd)
  · exact hcb (List.mem_append_right _ hc)

end Turnstile.Text
