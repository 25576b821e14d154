import Mathlib.Data.Int.Log
import Mathlib.Data.Rat.Floor
import Mathlib.Tactic.Linarith
import Mathlib.Tactic.Positivity
import Mathlib.Tactic.Ring

/-!
# Rounding to a binary floating format

A format keeps some bits after the leading one, down to a least exponent. A number is rounded to the
nearest multiple of its last place, halves to the even multiple. Rounding is monotone and keeps the
multiples of the last place, so it also keeps every bound that is such a multiple.
-/

namespace Foundation.Rounding

/-- The nearest integer, halves to the even one. -/
def nearestEven (q : ℚ) : ℤ :=
  if q - ⌊q⌋ < 1 / 2 then ⌊q⌋ else if 1 / 2 < q - ⌊q⌋ then ⌊q⌋ + 1 else ⌊q⌋ + ⌊q⌋ % 2

theorem floor_le_nearestEven (q : ℚ) : ⌊q⌋ ≤ nearestEven q := by
  unfold nearestEven
  split_ifs <;> omega

theorem nearestEven_le_floor_add_one (q : ℚ) : nearestEven q ≤ ⌊q⌋ + 1 := by
  unfold nearestEven
  split_ifs <;> omega

/-- An integer is its own nearest. -/
@[simp] theorem nearestEven_intCast (n : ℤ) : nearestEven n = n := by
  simp [nearestEven]

/-- Within one unit the fractions decide; beyond, the integer parts. -/
theorem nearestEven_mono {q r : ℚ} (ordered : q ≤ r) : nearestEven q ≤ nearestEven r := by
  have floors : ⌊q⌋ ≤ ⌊r⌋ := Int.floor_mono ordered
  by_cases same : ⌊q⌋ = ⌊r⌋
  · unfold nearestEven
    rw [same]
    split_ifs <;> first | omega | (exfalso; linarith)
  · have above := nearestEven_le_floor_add_one q
    have below := floor_le_nearestEven r
    omega

/-- An integer bound survives. -/
theorem nearestEven_le {q : ℚ} {n : ℤ} (bound : q ≤ n) : nearestEven q ≤ n := by
  have step := nearestEven_mono bound
  rwa [nearestEven_intCast] at step

theorem le_nearestEven {q : ℚ} {n : ℤ} (bound : n ≤ q) : n ≤ nearestEven q := by
  have step := nearestEven_mono bound
  rwa [nearestEven_intCast] at step

/-- Below the half before an integer the nearest lies below that integer. -/
theorem nearestEven_lt {q : ℚ} {n : ℤ} (bound : q < n - 1 / 2) : nearestEven q < n := by
  have floor : ⌊q⌋ < n := Int.floor_lt.mpr (by linarith)
  by_cases last : ⌊q⌋ + 1 = n
  · have fraction : q - ⌊q⌋ < 1 / 2 := by
      have cast : (⌊q⌋ : ℚ) + 1 = n := by exact_mod_cast last
      linarith
    rw [nearestEven, if_pos fraction]
    exact floor
  · have above := nearestEven_le_floor_add_one q
    omega

/-- From the half before an even integer on the nearest reaches that integer. -/
theorem le_nearestEven_of_half {q : ℚ} {n : ℤ} (even : n % 2 = 0) (bound : n - 1 / 2 ≤ q) :
    n ≤ nearestEven q := by
  have floor : n - 1 ≤ ⌊q⌋ := Int.le_floor.mpr (by push_cast; linarith)
  by_cases last : ⌊q⌋ = n - 1
  · have cast : (⌊q⌋ : ℚ) = n - 1 := by exact_mod_cast last
    have half : ¬ q - ⌊q⌋ < 1 / 2 := by linarith
    rw [nearestEven, if_neg half]
    split_ifs <;> omega
  · have below := floor_le_nearestEven q
    omega

section Format

variable (bits : ℕ) (least : ℤ)

/-- The exponent of the last place a number keeps. -/
def lastPlace (q : ℚ) : ℤ := max (Int.log 2 q - bits) least

/-- The number rounded to its last place. -/
def rounded (q : ℚ) : ℚ :=
  nearestEven (q / 2 ^ lastPlace bits least q) * 2 ^ lastPlace bits least q

variable {bits least}

theorem two_zpow_pos (k : ℤ) : (0 : ℚ) < 2 ^ k := zpow_pos (by norm_num) k

theorem two_zpow_le {i j : ℤ} (ordered : i ≤ j) : (2 : ℚ) ^ i ≤ 2 ^ j :=
  zpow_le_zpow_right₀ (by norm_num) ordered

theorem two_zpow_log_le {q : ℚ} (positive : 0 < q) : (2 : ℚ) ^ Int.log 2 q ≤ q := by
  have bound := Int.zpow_log_le_self (b := 2) (by norm_num) positive
  exact_mod_cast bound

theorem lt_two_zpow_log (q : ℚ) : q < 2 ^ (Int.log 2 q + 1) := by
  have bound := Int.lt_zpow_succ_log_self (b := 2) (by norm_num) q
  exact_mod_cast bound

/-- Where a number lies between two powers of two. -/
theorem log_eq {q : ℚ} {k : ℤ} (above : 2 ^ k ≤ q) (below : q < 2 ^ (k + 1)) : Int.log 2 q = k := by
  have positive : 0 < q := (two_zpow_pos k).trans_le above
  have lower := (Int.zpow_le_iff_le_log (b := 2) (x := k) (by norm_num) positive).mp
    (by exact_mod_cast above)
  have upper := (Int.lt_zpow_iff_log_lt (b := 2) (x := k + 1) (by norm_num) positive).mp
    (by exact_mod_cast below)
  omega

theorem two_zpow_double (k : ℤ) : (2 : ℚ) ^ k = 2 * 2 ^ (k - 1) := by
  have step := zpow_add₀ (show (2 : ℚ) ≠ 0 by norm_num) (k - 1) 1
  rwa [sub_add_cancel, zpow_one, mul_comm] at step

/-- A power of two is a multiple of every smaller one. -/
theorem two_zpow_split {i k : ℤ} (ordered : i ≤ k) :
    (2 : ℚ) ^ k = ((2 ^ (k - i).toNat : ℤ) : ℚ) * 2 ^ i := by
  have powers : ((2 ^ (k - i).toNat : ℤ) : ℚ) = 2 ^ (k - i) := by
    push_cast
    rw [← zpow_natCast, Int.toNat_of_nonneg (by omega)]
  rw [powers, ← zpow_add₀ (by norm_num), sub_add_cancel]

/-- Between two multiples of the last place rounding stays. -/
theorem rounded_le_mul {q : ℚ} {n : ℤ} (bound : q ≤ n * 2 ^ lastPlace bits least q) :
    rounded bits least q ≤ n * 2 ^ lastPlace bits least q := by
  have unit := two_zpow_pos (lastPlace bits least q)
  have nearest := nearestEven_le ((div_le_iff₀ unit).mpr bound)
  exact mul_le_mul_of_nonneg_right (Int.cast_le.mpr nearest) unit.le

theorem mul_le_rounded {q : ℚ} {n : ℤ} (bound : n * 2 ^ lastPlace bits least q ≤ q) :
    n * 2 ^ lastPlace bits least q ≤ rounded bits least q := by
  have unit := two_zpow_pos (lastPlace bits least q)
  have nearest := le_nearestEven ((le_div_iff₀ unit).mpr bound)
  exact mul_le_mul_of_nonneg_right (Int.cast_le.mpr nearest) unit.le

/-- A multiple of the last place is kept. -/
theorem rounded_eq_self {q : ℚ} {n : ℤ} (multiple : q = n * 2 ^ lastPlace bits least q) :
    rounded bits least q = q :=
  le_antisymm ((rounded_le_mul multiple.le).trans multiple.ge)
    (multiple.le.trans (mul_le_rounded multiple.ge))

theorem rounded_le_two_zpow {q : ℚ} {k : ℤ} (place : lastPlace bits least q ≤ k)
    (bound : q ≤ 2 ^ k) : rounded bits least q ≤ 2 ^ k := by
  rw [two_zpow_split place] at bound ⊢
  exact rounded_le_mul bound

theorem two_zpow_le_rounded {q : ℚ} {k : ℤ} (place : lastPlace bits least q ≤ k)
    (bound : 2 ^ k ≤ q) : 2 ^ k ≤ rounded bits least q := by
  rw [two_zpow_split place] at bound ⊢
  exact mul_le_rounded bound

/-- A power of two from the least place on is kept. -/
theorem lastPlace_two_zpow {k : ℤ} (place : least ≤ k) : lastPlace bits least ((2 : ℚ) ^ k) ≤ k := by
  have log : Int.log 2 ((2 : ℚ) ^ k) = k :=
    log_eq le_rfl (zpow_lt_zpow_right₀ (by norm_num) (by omega))
  unfold lastPlace
  omega

theorem rounded_two_zpow {k : ℤ} (place : least ≤ k) :
    rounded bits least ((2 : ℚ) ^ k) = 2 ^ k :=
  le_antisymm (rounded_le_two_zpow (lastPlace_two_zpow place) le_rfl)
    (two_zpow_le_rounded (lastPlace_two_zpow place) le_rfl)

@[simp] theorem rounded_zero : rounded bits least 0 = 0 := by
  have nearest : nearestEven 0 = 0 := nearestEven_intCast 0
  simp [rounded, nearest]

theorem rounded_nonneg {q : ℚ} (nonneg : 0 ≤ q) : 0 ≤ rounded bits least q := by
  have bound : ((0 : ℤ) : ℚ) * 2 ^ lastPlace bits least q ≤ q := by simpa using nonneg
  simpa using mul_le_rounded bound

/-- Rounding is monotone: within one last place because nearest integers are, and across a change of
the last place because a power of two lies between. -/
theorem rounded_mono {q r : ℚ} (nonneg : 0 ≤ q) (ordered : q ≤ r) :
    rounded bits least q ≤ rounded bits least r := by
  rcases nonneg.eq_or_lt with zero | positive
  · rw [← zero, rounded_zero]
    exact rounded_nonneg (nonneg.trans ordered)
  have logs : Int.log 2 q ≤ Int.log 2 r := Int.log_mono_right positive ordered
  by_cases same : lastPlace bits least q = lastPlace bits least r
  · have unit := two_zpow_pos (lastPlace bits least r)
    have nearest := nearestEven_mono (div_le_div_of_nonneg_right ordered unit.le)
    unfold rounded
    rw [same]
    exact mul_le_mul_of_nonneg_right (Int.cast_le.mpr nearest) unit.le
  · have apart : lastPlace bits least q ≤ Int.log 2 r ∧ lastPlace bits least r ≤ Int.log 2 r ∧
        Int.log 2 q + 1 ≤ Int.log 2 r := by
      unfold lastPlace at same ⊢
      omega
    have below : q ≤ 2 ^ Int.log 2 r := (lt_two_zpow_log q).le.trans (two_zpow_le apart.2.2)
    have above : (2 : ℚ) ^ Int.log 2 r ≤ r := two_zpow_log_le (positive.trans_le ordered)
    exact (rounded_le_two_zpow apart.1 below).trans (two_zpow_le_rounded apart.2.1 above)

/-- The integers of as many bits as are kept are kept. -/
theorem rounded_natCast {n : ℕ} (whole : least ≤ 0) (small : n < 2 ^ (bits + 1)) :
    rounded bits least n = n := by
  have place : lastPlace bits least (n : ℚ) ≤ 0 := by
    have log : Int.log 2 (n : ℚ) = Nat.log 2 n := Int.log_natCast 2 n
    have bound : Nat.log 2 n ≤ bits := by
      by_cases zero : n = 0
      · simp [zero]
      · exact Nat.lt_succ_iff.mp (Nat.log_lt_of_lt_pow zero small)
    unfold lastPlace
    omega
  have unit := two_zpow_split place
  rw [zpow_zero] at unit
  refine rounded_eq_self (n := n * 2 ^ (0 - lastPlace bits least (n : ℚ)).toNat) ?_
  push_cast at unit ⊢
  rw [mul_assoc, ← unit, mul_one]

/-- A number keeps its leading power of two, so it loses less than half of itself. -/
theorem half_lt_rounded {q : ℚ} (positive : 0 < q) (place : lastPlace bits least q ≤ Int.log 2 q) :
    q / 2 < rounded bits least q := by
  have below := two_zpow_le_rounded place (two_zpow_log_le positive)
  have above := lt_two_zpow_log q
  rw [zpow_add₀ (by norm_num), zpow_one] at above
  linarith

/-- Rounding reaches a power of two from the half place before it on. -/
theorem rounded_lt_two_zpow {q : ℚ} {k : ℤ} (nonneg : 0 ≤ q) (place : least ≤ k - 1 - bits) :
    rounded bits least q < 2 ^ k ↔ q < 2 ^ k - 2 ^ (k - 2 - bits) := by
  have half : (2 : ℚ) ^ (k - 2 - bits) = 1 / 2 * 2 ^ (k - 1 - (bits : ℤ)) := by
    rw [two_zpow_double (k - 1 - bits), show k - 1 - (bits : ℤ) - 1 = k - 2 - bits by ring]
    ring
  have whole : (2 : ℚ) ^ k = ((2 ^ (bits + 1) : ℤ) : ℚ) * 2 ^ (k - 1 - (bits : ℤ)) := by
    rw [two_zpow_split (show k - 1 - (bits : ℤ) ≤ k by omega)]
    rw [show (k - (k - 1 - (bits : ℤ))).toNat = bits + 1 by omega]
  have unit := two_zpow_pos (k - 1 - (bits : ℤ))
  have halves := two_zpow_pos (k - 2 - (bits : ℤ))
  by_cases low : q < 2 ^ (k - 1)
  · have smaller := two_zpow_double k
    have gap : (2 : ℚ) ^ (k - 2 - (bits : ℤ)) < 2 ^ (k - 1) :=
      zpow_lt_zpow_right₀ (by norm_num) (by omega)
    have bound : rounded bits least q ≤ 2 ^ (k - 1) :=
      (rounded_mono nonneg low.le).trans (rounded_two_zpow (by omega)).le
    constructor <;> intro _ <;> linarith
  rw [not_lt] at low
  by_cases high : q < 2 ^ k
  · have log : Int.log 2 q = k - 1 := log_eq low (by rwa [sub_add_cancel])
    have last : lastPlace bits least q = k - 1 - bits := by
      unfold lastPlace
      omega
    have scaled : rounded bits least q = nearestEven (q / 2 ^ (k - 1 - (bits : ℤ))) *
        2 ^ (k - 1 - (bits : ℤ)) := by
      rw [rounded, last]
    rw [scaled, half, whole, ← sub_mul, mul_lt_mul_iff_left₀ unit, Int.cast_lt, ← div_lt_iff₀ unit]
    constructor
    · intro reached
      by_contra bound
      rw [not_lt] at bound
      have even : (2 ^ (bits + 1) : ℤ) % 2 = 0 := by
        rw [pow_succ]
        omega
      exact absurd (le_nearestEven_of_half even bound) (not_le.mpr reached)
    · exact nearestEven_lt
  · rw [not_lt] at high
    have reached : 2 ^ k ≤ rounded bits least q :=
      (rounded_two_zpow (by omega)).ge.trans (rounded_mono (two_zpow_pos k).le high)
    constructor <;> intro _ <;> linarith

end Format

end Foundation.Rounding
