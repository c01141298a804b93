import Turnstile.Quota.Check

/-!
# What quotas admit

Every check compares what an action would come to with so many units of a ceiling, and either
amount stays at the largest one where 64 bits do not hold it. For a file, a message and a
count the answer is still the one that unbounded numbers give. For storage it is not where
both are cut off: such a ceiling is beyond what 64 bits can count, and admits everything.

A denial shows figures that bear it out: the configured limit, and above it what the action
would come to, also where both are in megabytes.

    the comparison of two amounts, cut off or not                             (settles_compare)
    each check passes just what fits, and denies by figures that do not       (…_settles)
-/

namespace Turnstile

/-! ## Verdicts -/

/-- There is no ceiling, or the amount is not above so many units. -/
def Within (ceiling : Int64) (unit amount : Nat) : Prop :=
  ceiling.toInt ≤ 0 ∨ (amount : Int) ≤ ceiling.toInt * unit

/-- There are at least as many units as 64 bits can count. -/
def Uncountable (ceiling : Int64) (unit : Nat) : Prop :=
  (largestAmount.toNat : Int) ≤ ceiling.toInt * unit

/-- The denial is by this ceiling, and its figures are those of an action beyond it. -/
def QuotaDenial.ShowsExcess (ceiling : Int64) : QuotaDenial → Prop
  | .exceeded _ used limit wouldBe _ =>
    1 ≤ limit ∧ (limit.toNat : Int) = ceiling.toInt ∧ used ≤ wouldBe ∧ limit < wouldBe
  | .fileTooLarge bytes limit _ =>
    1 ≤ limit ∧ (limit.toNat : Int) = ceiling.toInt ∧ limit < megabytesOf bytes
  | .tooMany .. | .slowmode .. => False

/-- The verdict passes just what fits, and denies by figures that do not. -/
structure Settles (verdict : Except QuotaDenial Unit) (ceiling : Int64) (fits : Prop) : Prop where
  ok_iff : verdict = .ok () ↔ fits
  shows_excess : ∀ d, verdict = .error d → d.ShowsExcess ceiling

theorem Settles.congr {verdict : Except QuotaDenial Unit} {ceiling : Int64} {fits fits' : Prop}
    (h : Settles verdict ceiling fits) (hfits : fits ↔ fits') : Settles verdict ceiling fits' :=
  ⟨h.ok_iff.trans hfits, h.shows_excess⟩

/-! ## Amounts -/

theorem toNat_largestAmount : largestAmount.toNat = 18446744073709551615 := rfl

theorem le_addSaturating (a b : UInt64) : a ≤ addSaturating a b := by
  have ha := a.toNat_lt
  rw [UInt64.le_iff_toNat_le, toNat_addSaturating, toNat_largestAmount]
  omega

/-- What is above a ceiling in bytes is above it in megabytes. -/
theorem lt_megabytesOf {limit amount : UInt64}
    (h : mulSaturating limit bytesPerMegabyte < amount) : limit < megabytesOf amount := by
  have hamount := amount.toNat_lt
  rw [UInt64.lt_iff_toNat_lt, toNat_mulSaturating, toNat_largestAmount] at h
  rw [← UInt64.not_le, megabytesOf_le_iff]
  omega

namespace Ceilings

/-- A ceiling is none, or it is the number it says. -/
theorem amount?_cases (ceiling : Int64) :
    ceiling.toInt ≤ 0 ∧ amount? ceiling = none ∨
    0 < ceiling.toInt ∧ (ceiling.toUInt64.toNat : Int) = ceiling.toInt ∧
      amount? ceiling = some ceiling.toUInt64 := by
  unfold amount? isUnlimited
  by_cases h : ceiling ≤ 0
  · refine Or.inl ⟨Int64.le_iff_toInt_le.1 h, ?_⟩
    rw [if_pos (decide_eq_true h)]
  · have hpos : 0 < ceiling.toInt := Int.not_le.1 fun hle => h (Int64.le_iff_toInt_le.2 hle)
    have hle : 0 ≤ ceiling := Int64.le_iff_toInt_le.2 (Int.le_of_lt hpos)
    refine Or.inr ⟨hpos, ?_, ?_⟩
    · rw [Int64.toNat_toUInt64_of_le hle, ← Int64.toNat_toInt]
      omega
    · rw [if_neg (by simpa using h)]

/-- The form of every check. Where neither side is cut off, or only the amount, the comparison
is exact. A ceiling that is cut off is not below any amount. -/
theorem settles_compare {ceiling : Int64} {unit amount : Nat} {most : UInt64 → UInt64}
    {total : UInt64} {denial : UInt64 → QuotaDenial}
    (hmost : ∀ limit, (most limit).toNat = min (limit.toNat * unit) largestAmount.toNat)
    (htotal : total.toNat = min amount largestAmount.toNat)
    (hdenial : 1 ≤ ceiling.toUInt64 → (ceiling.toUInt64.toNat : Int) = ceiling.toInt →
      most ceiling.toUInt64 < total → (denial ceiling.toUInt64).ShowsExcess ceiling) :
    Settles
      (match amount? ceiling with
        | none => .ok ()
        | some limit => if most limit < total then .error (denial limit) else .ok ())
      ceiling (Within ceiling unit amount ∨ Uncountable ceiling unit) := by
  rcases amount?_cases ceiling with ⟨hnone, h⟩ | ⟨hpos, hlimit, h⟩
  · rw [h]
    exact ⟨⟨fun _ => Or.inl (Or.inl hnone), fun _ => rfl⟩, nofun⟩
  · rw [h]
    have hfits : Within ceiling unit amount ∨ Uncountable ceiling unit ↔
        ¬ most ceiling.toUInt64 < total := by
      rw [Within, Uncountable, UInt64.lt_iff_toNat_lt, hmost, htotal, ← hlimit, ← Int.natCast_mul]
      omega
    dsimp only
    split
    · next hover =>
      refine ⟨⟨nofun, fun hw => absurd hover (hfits.1 hw)⟩, fun d hd => ?_⟩
      cases hd
      refine hdenial ?_ hlimit hover
      rw [UInt64.le_iff_toNat_le, UInt64.toNat_one]
      omega
    · next hnot => exact ⟨⟨fun _ => hfits.2 hnot, fun _ => rfl⟩, nofun⟩

/-- A ceiling that is not multiplied is below the largest amount, so it decides exactly. -/
theorem settles_plain {ceiling : Int64} {amount : Nat} {total : UInt64}
    {denial : UInt64 → QuotaDenial} (htotal : total.toNat = min amount largestAmount.toNat)
    (hdenial : 1 ≤ ceiling.toUInt64 → (ceiling.toUInt64.toNat : Int) = ceiling.toInt →
      ceiling.toUInt64 < total → (denial ceiling.toUInt64).ShowsExcess ceiling) :
    Settles
      (match amount? ceiling with
        | none => .ok ()
        | some limit => if limit < total then .error (denial limit) else .ok ())
      ceiling (Within ceiling 1 amount) := by
  have hmost : ∀ limit : UInt64, (id limit).toNat = min (limit.toNat * 1) largestAmount.toNat := by
    intro limit
    have hlimit := limit.toNat_lt
    rw [id, toNat_largestAmount]
    omega
  have hcountable : ¬ Uncountable ceiling 1 := by
    have hlt := ceiling.toInt_lt
    rw [Uncountable, toNat_largestAmount]
    omega
  exact (settles_compare hmost htotal hdenial).congr (or_iff_left hcountable)

/-! ## The checks -/

section
variable (c : Ceilings)

theorem checkCount_settles (r : Resource) (current : UInt64) :
    Settles (c.checkCount r current) (c.get r) (Within (c.get r) 1 (current.toNat + 1)) :=
  settles_plain (toNat_addSaturating current 1) fun hone hlimit hover =>
    ⟨hone, hlimit, le_addSaturating current 1, hover⟩

theorem checkLength_settles (content : String) :
    Settles (c.checkLength content) c.messageLength
      (Within c.messageLength 1 content.length) :=
  settles_plain (toNat_amountOfNat content.length) fun hone hlimit hover =>
    ⟨hone, hlimit, UInt64.zero_le, hover⟩

theorem checkStorage_settles (r : Resource) (used incoming : UInt64) :
    Settles (c.checkStorage r used incoming) (c.get r)
      (Within (c.get r) 1048576 (used.toNat + incoming.toNat) ∨
        Uncountable (c.get r) 1048576) :=
  settles_compare (fun limit => toNat_mulSaturating limit bytesPerMegabyte)
    (toNat_addSaturating used incoming) fun hone hlimit hover =>
      ⟨hone, hlimit, megabytesOf_mono (le_addSaturating used incoming), lt_megabytesOf hover⟩

/-- A single file is never above a ceiling that is cut off. -/
theorem checkFileSize_settles (bytes : UInt64) :
    Settles (c.checkFileSize bytes) c.fileSizeMb (Within c.fileSizeMb 1048576 bytes.toNat) := by
  have hbytes : bytes.toNat = min bytes.toNat largestAmount.toNat := by
    have hlt := bytes.toNat_lt
    rw [toNat_largestAmount]
    omega
  have hcheck : c.checkFileSize bytes =
      match amount? c.fileSizeMb with
      | none => .ok ()
      | some limit =>
        if mulSaturating limit bytesPerMegabyte < bytes then
          .error (.fileTooLarge bytes c.fileSizeMb.toUInt64 c.upgradeAction)
        else .ok () := by
    unfold checkFileSize fileBytes?
    cases amount? c.fileSizeMb with
    | none => rfl
    | some limit => rfl
  rw [hcheck]
  refine Settles.congr (settles_compare (fun limit => toNat_mulSaturating limit bytesPerMegabyte)
    hbytes fun hone hlimit hover => ⟨hone, hlimit, lt_megabytesOf hover⟩) (or_iff_left_of_imp ?_)
  intro huncountable
  rw [Uncountable, toNat_largestAmount] at huncountable
  have hlt := bytes.toNat_lt
  exact Or.inr (by omega)

end

end Ceilings

/-! ## What is admitted -/

/-- **Storage ceilings are exact as far as 64 bits count.** What is in use and what comes in
are admitted together if there is no ceiling, if their true sum is not above the ceiling in
bytes, or if the ceiling in bytes is not below the largest amount. -/
theorem storage_admitted_iff (c : Ceilings) (used incoming : UInt64) :
    (c.checkUserStorage used incoming = .ok () ↔
      Within c.storagePerUserMb 1048576 (used.toNat + incoming.toNat) ∨
        Uncountable c.storagePerUserMb 1048576) ∧
    (c.checkServerStorage used incoming = .ok () ↔
      Within c.storagePerServerMb 1048576 (used.toNat + incoming.toNat) ∨
        Uncountable c.storagePerServerMb 1048576) :=
  ⟨(c.checkStorage_settles .userStorage used incoming).ok_iff,
    (c.checkStorage_settles .serverStorage used incoming).ok_iff⟩

/-- Two amounts of almost 2⁶⁴ bytes are admitted by a ceiling of 2⁶⁴ bytes. -/
theorem storage_admitted_beyond_ceiling :
    ¬ ∀ (c : Ceilings) (used incoming : UInt64),
      (c.checkUserStorage used incoming = .ok () ↔
        Within c.storagePerUserMb 1048576 (used.toNat + incoming.toNat)) ∧
      (c.checkServerStorage used incoming = .ok () ↔
        Within c.storagePerServerMb 1048576 (used.toNat + incoming.toNat)) := by
  intro h
  have hwithin := (h { storagePerUserMb := 17592186044416 } largestAmount largestAmount).1.1 rfl
  rcases hwithin with hnone | hsum
  · exact absurd hnone (by decide)
  · exact absurd hsum (by decide)

/-- **Files, counts and messages are measured exactly, and denials show why.** Each of these
checks passes just what is within its ceiling, as numbers without a bound. A denial by any
check of the quotas, those of storage among them, names the ceiling and shows an amount above
it in the same unit. -/
theorem checks_settle (c : Ceilings) :
    (∀ bytes, Settles (c.checkFileSize bytes) c.fileSizeMb
      (Within c.fileSizeMb 1048576 bytes.toNat)) ∧
    (∀ r current, Settles (c.checkCount r current) (c.get r)
      (Within (c.get r) 1 (current.toNat + 1))) ∧
    (∀ current, Settles (c.checkServersOwned current) c.serversOwned
      (Within c.serversOwned 1 (current.toNat + 1))) ∧
    (∀ current, Settles (c.checkServersJoined current) c.serversJoined
      (Within c.serversJoined 1 (current.toNat + 1))) ∧
    (∀ current, Settles (c.checkChannels current) c.channelsPerServer
      (Within c.channelsPerServer 1 (current.toNat + 1))) ∧
    (∀ current, Settles (c.checkRoles current) c.rolesPerServer
      (Within c.rolesPerServer 1 (current.toNat + 1))) ∧
    (∀ current, Settles (c.checkMembers current) c.membersPerServer
      (Within c.membersPerServer 1 (current.toNat + 1))) ∧
    (∀ content, Settles (c.checkLength content) c.messageLength
      (Within c.messageLength 1 content.length)) ∧
    (∀ used incoming d, c.checkUserStorage used incoming = .error d →
      d.ShowsExcess c.storagePerUserMb) ∧
    ∀ used incoming d, c.checkServerStorage used incoming = .error d →
      d.ShowsExcess c.storagePerServerMb := by
  refine ⟨c.checkFileSize_settles, c.checkCount_settles, c.checkCount_settles _,
    c.checkCount_settles _, c.checkCount_settles _, c.checkCount_settles _,
    c.checkCount_settles _, c.checkLength_settles, ?_, ?_⟩
  · exact fun used incoming => (c.checkStorage_settles .userStorage used incoming).shows_excess
  · exact fun used incoming => (c.checkStorage_settles .serverStorage used incoming).shows_excess

/-- Of 500 MB, 490 are in use and 20 come in: the denial shows 510. A tenth server is the last. -/
theorem checks_settle_sampleUse :
    ({} : Ceilings).checkUserStorage 513802240 20971520 =
      .error (.exceeded .userStorage 490 500 510 none) ∧
    (QuotaDenial.exceeded .userStorage 490 500 510 none).ShowsExcess 500 ∧
    ({} : Ceilings).checkServersOwned 9 = .ok () ∧
    ({} : Ceilings).checkServersOwned 10 ≠ .ok () := by
  obtain ⟨-, -, hservers, -, -, -, -, -, hstorage, -⟩ := checks_settle {}
  have hdenied : ({} : Ceilings).checkUserStorage 513802240 20971520 =
      .error (.exceeded .userStorage 490 500 510 none) := rfl
  refine ⟨hdenied, hstorage _ _ _ hdenied, (hservers 9).ok_iff.2 (Or.inr (by decide)), ?_⟩
  intro hok
  rcases (hservers 10).ok_iff.1 hok with hnone | hsum
  · exact absurd hnone (by decide)
  · exact absurd hsum (by decide)

end Turnstile
