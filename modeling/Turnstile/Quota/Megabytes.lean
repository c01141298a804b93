/-!
# Amounts in 64 bits

Byte counts and their megabytes. Counts, sums and products that do not fit 64 bits stay at
the largest value. Where a ceiling in bytes fits, what is compared with it comes out as it
would without a bound; nothing is above one that does not fit.

    (addSaturating a b).toNat = min (a.toNat + b.toNat) largestAmount.toNat   (toNat_addSaturating)
    (mulSaturating a b).toNat = min (a.toNat * b.toNat) largestAmount.toNat   (toNat_mulSaturating)
    (megabytesOf bytes).toNat = (bytes.toNat + 1048575) / 1048576             (toNat_megabytesOf)
    megabytesOf bytes ≤ n ↔ bytes.toNat ≤ n.toNat * bytesPerMegabyte.toNat    (megabytesOf_le_iff)
-/

namespace Turnstile

/-- The largest amount. -/
def largestAmount : UInt64 := 0xFFFFFFFFFFFFFFFF

/-- A count as an amount. -/
def amountOfNat (n : Nat) : UInt64 := if n < UInt64.size then UInt64.ofNat n else largestAmount

def addSaturating (a b : UInt64) : UInt64 :=
  if a.toNat + b.toNat < UInt64.size then a + b else largestAmount

def mulSaturating (a b : UInt64) : UInt64 :=
  if a.toNat * b.toNat < UInt64.size then a * b else largestAmount

/-- Bytes in a megabyte. -/
def bytesPerMegabyte : UInt64 := 1048576

/-- A byte count in megabytes, rounded up. -/
def megabytesOf (bytes : UInt64) : UInt64 :=
  let whole := bytes / bytesPerMegabyte
  if bytes % bytesPerMegabyte = 0 then whole else whole + 1

theorem size_eq_largestAmount_add_one : UInt64.size = largestAmount.toNat + 1 := rfl

theorem toNat_amountOfNat (n : Nat) : (amountOfNat n).toNat = min n largestAmount.toNat := by
  have hsize := size_eq_largestAmount_add_one
  unfold amountOfNat
  split
  · rename_i h
    rw [UInt64.toNat_ofNat', Nat.mod_eq_of_lt h]; omega
  · omega

theorem toNat_addSaturating (a b : UInt64) :
    (addSaturating a b).toNat = min (a.toNat + b.toNat) largestAmount.toNat := by
  have hsize := size_eq_largestAmount_add_one
  unfold addSaturating
  split
  · rename_i h
    rw [UInt64.toNat_add, Nat.mod_eq_of_lt h]; omega
  · omega

theorem toNat_mulSaturating (a b : UInt64) :
    (mulSaturating a b).toNat = min (a.toNat * b.toNat) largestAmount.toNat := by
  have hsize := size_eq_largestAmount_add_one
  unfold mulSaturating
  split
  · rename_i h
    rw [UInt64.toNat_mul, Nat.mod_eq_of_lt h]; omega
  · omega

theorem toNat_bytesPerMegabyte : bytesPerMegabyte.toNat = 1048576 := rfl

theorem toNat_megabytesOf (bytes : UInt64) :
    (megabytesOf bytes).toNat = (bytes.toNat + 1048575) / 1048576 := by
  have hbytes := bytes.toNat_lt
  have hwhole : (bytes / bytesPerMegabyte).toNat = bytes.toNat / 1048576 := UInt64.toNat_div _ _
  have hrest : bytes % bytesPerMegabyte = 0 ↔ bytes.toNat % 1048576 = 0 := by
    rw [← UInt64.toNat_inj, UInt64.toNat_mod, toNat_bytesPerMegabyte, UInt64.toNat_zero]
  unfold megabytesOf
  dsimp only
  split
  · rename_i h
    rw [hrest] at h
    omega
  · rename_i h
    rw [hrest] at h
    rw [UInt64.toNat_add, UInt64.toNat_one]
    omega

/-- So many megabytes are enough just if so many bytes are. -/
theorem megabytesOf_le_iff (bytes n : UInt64) :
    megabytesOf bytes ≤ n ↔ bytes.toNat ≤ n.toNat * bytesPerMegabyte.toNat := by
  rw [UInt64.le_iff_toNat_le, toNat_megabytesOf, toNat_bytesPerMegabyte]
  omega

theorem megabytesOf_mono {a b : UInt64} (h : a ≤ b) : megabytesOf a ≤ megabytesOf b := by
  have hb := (megabytesOf_le_iff b (megabytesOf b)).1 (UInt64.le_refl _)
  exact (megabytesOf_le_iff a _).2 (Nat.le_trans (UInt64.le_iff_toNat_le.1 h) hb)

end Turnstile
