import Turnstile.Proofs.Text.Numerals
import Turnstile.Rate.Limit

/-!
# Definitions of limits

What a text must be to define a limit: two numbers with the first comma between them, blanks
around them, and neither of them zero. Any other text is faulty for one reason.

    numbers? cs = some (requests, secs)  ↔  cs spells these numbers      (numbers?_eq_some_iff)
    Limit.read s = .ok l  ↔  s spells the numbers of l, not zero         (read_eq_ok_iff)
    Gives cs n s  ↔  cs spells n and s, which fit their widths           (gives_iff)
    Limit.read s = .error f  ↔  s is faulty for this reason              (read_eq_error_iff)
    Limit.read l.write = .ok l                                           (read_write)
-/

namespace Turnstile.Limit

open Turnstile.Text Turnstile.Text.Decimal

/-- The text gives so many requests and so many seconds. -/
def Spells (cs : List Char) (requests : UInt32) (secs : UInt64) : Prop :=
  ∃ a b, cs = a ++ ',' :: b ∧ ',' ∉ a ∧ Unsigned (trim a) requests.toNat ∧
    Unsigned (trim b) secs.toNat

theorem splitComma?_eq_some_iff (cs a b : List Char) :
    splitComma? cs = some (a, b) ↔ cs = a ++ ',' :: b ∧ ',' ∉ a := by
  induction cs generalizing a with
  | nil => simp [splitComma?]
  | cons c r ih =>
    by_cases hc : c = ','
    · subst hc
      rw [splitComma?]
      constructor
      · rintro ⟨⟩
        exact ⟨rfl, List.not_mem_nil⟩
      · rintro ⟨h, hnot⟩
        cases a with
        | nil => rw [(List.cons.inj h).2]
        | cons d a => exact absurd ((List.cons.inj h).1 ▸ List.mem_cons_self) hnot
    · have hsplit : splitComma? (c :: r) = (splitComma? r).map fun p => (c :: p.1, p.2) := by
        rw [splitComma?]
        exact hc
      rw [hsplit, Option.map_eq_some_iff]
      constructor
      · rintro ⟨⟨a', b'⟩, h, hab⟩
        cases hab
        obtain ⟨hr, hnot⟩ := (ih a').1 h
        refine ⟨by rw [hr]; rfl, fun hmem => ?_⟩
        rcases List.mem_cons.1 hmem with h | h
        · exact hc h.symm
        · exact hnot h
      · rintro ⟨h, hnot⟩
        cases a with
        | nil => exact absurd (List.cons.inj h).1 hc
        | cons d a =>
          obtain ⟨rfl, hr⟩ := List.cons.inj h
          exact ⟨(a, b), (ih a).2 ⟨hr, fun hmem => hnot (List.mem_cons_of_mem _ hmem)⟩, rfl⟩

theorem numbers?_eq_some_iff (cs : List Char) (requests : UInt32) (secs : UInt64) :
    numbers? cs = some (requests, secs) ↔ Spells cs requests secs := by
  unfold numbers?
  simp only [Option.bind_eq_bind, Option.bind_eq_some_iff, Prod.exists, splitComma?_eq_some_iff,
    readUInt32?_eq_some_iff, readUInt64?_eq_some_iff, Option.some.injEq, Prod.mk.injEq]
  constructor
  · rintro ⟨a, b, ⟨hcs, hnot⟩, _, ha, _, hb, rfl, rfl⟩
    exact ⟨a, b, hcs, hnot, ha, hb⟩
  · rintro ⟨a, b, hcs, hnot, ha, hb⟩
    exact ⟨a, b, ⟨hcs, hnot⟩, _, ha, _, hb, rfl, rfl⟩

theorem isZero_ofSecs (secs : UInt64) : (Duration.ofSecs secs).isZero = true ↔ secs = 0 := by
  rw [Duration.isZero_iff, Duration.toNanos_ofSecs, ← UInt64.toNat_inj, UInt64.toNat_zero]
  omega

theorem make_eq_ok_iff (requests : UInt32) (window : Duration) (l : Limit) :
    make requests window = .ok l ↔
      requests ≠ 0 ∧ ¬ window.isZero = true ∧ l = ⟨requests, window⟩ := by
  unfold make
  split
  · next h => simp [h]
  · next h =>
    split
    · next hwindow => simp [hwindow]
    · next hwindow => simp [h, hwindow, eq_comm]

theorem read_eq_ok_iff (definition : String) (l : Limit) :
    read definition = .ok l ↔ ∃ requests secs, Spells definition.toList requests secs ∧
      requests ≠ 0 ∧ secs ≠ 0 ∧ l = perSeconds requests secs := by
  rw [read]
  constructor
  · intro h
    split at h
    · cases h
    · next requests secs hnumbers =>
      obtain ⟨hrequests, hwindow, rfl⟩ := (make_eq_ok_iff _ _ _).1 h
      rw [isZero_ofSecs] at hwindow
      exact ⟨requests, secs, (numbers?_eq_some_iff _ _ _).1 hnumbers, hrequests, hwindow, rfl⟩
  · rintro ⟨requests, secs, hspells, hrequests, hsecs, rfl⟩
    rw [(numbers?_eq_some_iff _ _ _).2 hspells]
    exact (make_eq_ok_iff _ _ _).2 ⟨hrequests, mt (isZero_ofSecs secs).1 hsecs, rfl⟩

/-! ## The grammar

The same said of the digits alone: which characters a text may have, and which values. -/

/-- Two numbers with the first comma of the text between them, both of which fit their
widths. -/
def Gives (cs : List Char) (n s : Nat) : Prop :=
  ∃ a b, cs = a ++ ',' :: b ∧ ',' ∉ a ∧ Padded a n ∧ Padded b s ∧ n < UInt32.size ∧
    s < UInt64.size

/-- What is wrong with a text that defines no limit. Of two zeros the first is told. -/
inductive Faulty (text : String) : LimitFault → Prop
  | malformed : (∀ n s, ¬ Gives text.toList n s) → Faulty text (.malformed text)
  | zeroRequests {s : Nat} : Gives text.toList 0 s → Faulty text .zeroRequests
  | zeroWindow {n : Nat} : 1 ≤ n → Gives text.toList n 0 → Faulty text .zeroWindow

theorem requests_ne_zero_iff (requests : UInt32) : requests ≠ 0 ↔ 1 ≤ requests.toNat := by
  rw [Nat.one_le_iff_ne_zero]
  exact not_congr (UInt32.toNat_inj (b := 0)).symm

theorem secs_ne_zero_iff (secs : UInt64) : secs ≠ 0 ↔ 1 ≤ secs.toNat := by
  rw [Nat.one_le_iff_ne_zero]
  exact not_congr (UInt64.toNat_inj (b := 0)).symm

theorem gives_iff (cs : List Char) (n s : Nat) :
    Gives cs n s ↔
      ∃ requests secs, Spells cs requests secs ∧ requests.toNat = n ∧ secs.toNat = s := by
  constructor
  · rintro ⟨a, b, hcs, hnot, ha, hb, hn, hs⟩
    have hn' : (UInt32.ofNatLT n hn).toNat = n := rfl
    have hs' : (UInt64.ofNatLT s hs).toNat = s := rfl
    refine ⟨.ofNatLT n hn, .ofNatLT s hs, ⟨a, b, hcs, hnot, ?_, ?_⟩, hn', hs'⟩
    · rw [unsigned_trim_iff, hn']
      exact ha
    · rw [unsigned_trim_iff, hs']
      exact hb
  · rintro ⟨requests, secs, ⟨a, b, hcs, hnot, ha, hb⟩, rfl, rfl⟩
    exact ⟨a, b, hcs, hnot, (unsigned_trim_iff _ _).1 ha, (unsigned_trim_iff _ _).1 hb,
      requests.toNat_lt, secs.toNat_lt⟩

/-- A text gives the numbers that are read from it, and no others. -/
theorem gives_iff_of_numbers {cs : List Char} {requests : UInt32} {secs : UInt64}
    (h : numbers? cs = some (requests, secs)) (n s : Nat) :
    Gives cs n s ↔ n = requests.toNat ∧ s = secs.toNat := by
  rw [gives_iff]
  constructor
  · rintro ⟨requests', secs', hspells, rfl, rfl⟩
    rw [← numbers?_eq_some_iff, h] at hspells
    cases hspells
    exact ⟨rfl, rfl⟩
  · rintro ⟨rfl, rfl⟩
    exact ⟨requests, secs, (numbers?_eq_some_iff _ _ _).1 h, rfl, rfl⟩

theorem not_gives_of_numbers {cs : List Char} (h : numbers? cs = none) (n s : Nat) :
    ¬ Gives cs n s := by
  rw [gives_iff]
  rintro ⟨requests, secs, hspells, -, -⟩
  rw [← numbers?_eq_some_iff, h] at hspells
  cases hspells

theorem make_eq_error_iff (requests : UInt32) (window : Duration) (f : LimitFault) :
    make requests window = .error f ↔ requests = 0 ∧ f = .zeroRequests ∨
      requests ≠ 0 ∧ window.isZero = true ∧ f = .zeroWindow := by
  unfold make
  split
  · next h => simp only [h, Except.error.injEq, ne_eq, not_true, false_and, or_false, true_and,
      eq_comm]
  · next h =>
    split
    · next hwindow => simp only [h, hwindow, Except.error.injEq, false_and, false_or, ne_eq,
        not_false_eq_true, true_and, eq_comm]
    · next hwindow => simp [h, hwindow]

theorem read_eq_error_iff (text : String) (f : LimitFault) :
    read text = .error f ↔ Faulty text f := by
  rw [read]
  split
  · next hnone =>
    have hgives := not_gives_of_numbers hnone
    constructor
    · rintro ⟨⟩
      exact .malformed hgives
    · rintro (_ | h | ⟨-, h⟩)
      · rfl
      · exact absurd h (hgives _ _)
      · exact absurd h (hgives _ _)
  · next requests secs hnumbers =>
    -- no other numbers are given, so what is zero is settled
    have hgives := gives_iff_of_numbers hnumbers
    rw [make_eq_error_iff, isZero_ofSecs]
    constructor
    · rintro (⟨rfl, rfl⟩ | ⟨hrequests, rfl, rfl⟩)
      · exact .zeroRequests ((hgives _ _).2 ⟨rfl, rfl⟩)
      · exact .zeroWindow ((requests_ne_zero_iff _).1 hrequests) ((hgives _ _).2 ⟨rfl, rfl⟩)
    · rintro (h | h | ⟨hn, h⟩)
      · exact absurd ((hgives _ _).2 ⟨rfl, rfl⟩) (h _ _)
      · exact .inl ⟨UInt32.toNat_inj.1 ((hgives _ _).1 h).1.symm, rfl⟩
      · obtain ⟨hrequests, hsecs⟩ := (hgives _ _).1 h
        rw [hrequests] at hn
        exact .inr ⟨(requests_ne_zero_iff _).2 hn, UInt64.toNat_inj.1 hsecs.symm, rfl⟩

/-- The limit that is read has the numbers that the text gives, the window in seconds. -/
theorem read_eq_ok_iff_gives (text : String) (l : Limit) :
    read text = .ok l ↔ ∃ n s, Gives text.toList n s ∧ 1 ≤ n ∧ 1 ≤ s ∧
      l.requests.toNat = n ∧ l.window.toNanos = s * 1000000000 := by
  rw [read_eq_ok_iff]
  constructor
  · rintro ⟨requests, secs, hspells, hrequests, hsecs, rfl⟩
    exact ⟨_, _, (gives_iff _ _ _).2 ⟨requests, secs, hspells, rfl, rfl⟩,
      (requests_ne_zero_iff _).1 hrequests, (secs_ne_zero_iff _).1 hsecs, rfl, Duration.toNanos_ofSecs _⟩
  · rintro ⟨n, s, hgives, hn, hs, hrequests, hwindow⟩
    obtain ⟨requests, secs, hspells, rfl, rfl⟩ := (gives_iff _ _ _).1 hgives
    have hl : l = perSeconds requests secs := by
      have hspan : l.window = .ofSecs secs := by
        apply Duration.toNanos_inj
        rw [hwindow, Duration.toNanos_ofSecs]
      rw [perSeconds, ← UInt32.toNat_inj.1 hrequests, ← hspan]
    exact ⟨requests, secs, hspells, (requests_ne_zero_iff _).2 hn, (secs_ne_zero_iff _).2 hs, hl⟩

theorem exists_read_eq_ok_iff (text : String) :
    (∃ l, read text = .ok l) ↔ ∃ n s, Gives text.toList n s ∧ 1 ≤ n ∧ 1 ≤ s := by
  constructor
  · rintro ⟨l, h⟩
    obtain ⟨n, s, hgives, hn, hs, -, -⟩ := (read_eq_ok_iff_gives _ _).1 h
    exact ⟨n, s, hgives, hn, hs⟩
  · rintro ⟨n, s, hgives, hn, hs⟩
    obtain ⟨requests, secs, -, hrequests, hsecs⟩ := (gives_iff _ _ _).1 hgives
    refine ⟨perSeconds requests secs,
      (read_eq_ok_iff_gives _ _).2 ⟨n, s, hgives, hn, hs, hrequests, ?_⟩⟩
    rw [← hsecs]
    exact Duration.toNanos_ofSecs secs

theorem gives_write (l : Limit) :
    Gives l.write.toList l.requests.toNat l.windowSecs.toNat := by
  refine ⟨digits l.requests.toNat, digits l.windowSecs.toNat, ?_,
    not_mem_digits (by decide) _, padded_digits _, padded_digits _, l.requests.toNat_lt,
    l.windowSecs.toNat_lt⟩
  simp [write, ofNat]

/-- A limit with a window of whole seconds is read back as it was written. -/
theorem read_write (l : Limit) (hrequests : 1 ≤ l.requests.toNat) (hsecs : 1 ≤ l.windowSecs.toNat)
    (hwhole : l.window.toNanos = l.windowSecs.toNat * 1000000000) : read l.write = .ok l :=
  (read_eq_ok_iff_gives _ _).2 ⟨_, _, gives_write l, hrequests, hsecs, rfl, hwhole⟩

/-- A text is read as a limit exactly when it is two numbers in range and not zero, with the
first comma between them; any other text has one fault, and what is written is read back. -/
theorem read_by_grammar :
    (∀ text, (∃ l, read text = .ok l) ↔ ∃ n s, Gives text.toList n s ∧ 1 ≤ n ∧ 1 ≤ s) ∧
    (∀ text l, read text = .ok l ↔ ∃ n s, Gives text.toList n s ∧ 1 ≤ n ∧ 1 ≤ s ∧
      l.requests.toNat = n ∧ l.window.toNanos = s * 1000000000) ∧
    (∀ text f, read text = .error f ↔ Faulty text f) ∧
    (∀ l : Limit, 1 ≤ l.requests.toNat → 1 ≤ l.windowSecs.toNat →
      l.window.toNanos = l.windowSecs.toNat * 1000000000 → read l.write = .ok l) :=
  ⟨exists_read_eq_ok_iff, read_eq_ok_iff_gives, read_eq_error_iff, read_write⟩

theorem seven_a_minute_by_grammar :
    Gives " +007 ,\t60".toList 7 60 ∧ read " +007 ,\t60" = .ok (perMinute 7) ∧
    read "0,0" = .error .zeroRequests ∧ read (perMinute 7).write = .ok (perMinute 7) := by
  have hspace : Blank [' '] := List.forall_mem_singleton.2 rfl
  have htab : Blank ['\t'] := List.forall_mem_singleton.2 rfl
  have hnone : Blank [] := List.forall_mem_nil _
  have hseven : Padded " +007 ".toList 7 :=
    ⟨[' '], ['+'], ['0', '0', '7'], [' '], rfl, hspace, hspace, .inr rfl, by decide,
      List.all_eq_true.1 rfl, rfl⟩
  have hsixty : Padded "\t60".toList 60 :=
    ⟨['\t'], [], ['6', '0'], [], rfl, htab, hnone, .inl rfl, by decide, List.all_eq_true.1 rfl, rfl⟩
  have hzero : Padded "0".toList 0 :=
    ⟨[], [], ['0'], [], rfl, hnone, hnone, .inl rfl, by decide, List.all_eq_true.1 rfl, rfl⟩
  have hspaced : Gives " +007 ,\t60".toList 7 60 :=
    ⟨_, _, rfl, by decide, hseven, hsixty, by decide, by decide⟩
  have hzeros : Gives "0,0".toList 0 0 :=
    ⟨_, _, rfl, by decide, hzero, hzero, by decide, by decide⟩
  obtain ⟨-, hok, herror, hwritten⟩ := read_by_grammar
  exact ⟨hspaced, (hok _ _).2 ⟨7, 60, hspaced, by decide, by decide, rfl, rfl⟩,
    (herror _ _).2 (.zeroRequests hzeros), hwritten (perMinute 7) (by decide) (by decide) rfl⟩

end Turnstile.Limit
