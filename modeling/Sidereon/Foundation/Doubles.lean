import Mathlib
import Sidereon.Foundation.BeamNumber
import Sidereon.Foundation.Rounding

/-!
# Products of doubles

The mantissa with its residual bits that the model of doubles shifts stands for a number whose floor
and fraction it knows. So a product of doubles that are not negative is the exact product, rounded to
the last place, and it is finite exactly when the exact product is not within half a last place of the
range's end.
-/

namespace Foundation.Doubles

open Float.Model (Format totalExponent UnpackedFloat)
open Float.Model.UnpackedFloat
open Foundation.Rounding
open Foundation.Beam (floatValue)

/-- A mantissa with its residual bits stands for a number. -/
structure StandsFor (em : ExtendedMantissa) (q : ℚ) : Prop where
  floor : ⌊q⌋ = em.mantissa
  round : em.roundBit = true ↔ 1 / 2 ≤ Int.fract q
  sticky : em.stickyBit = true ↔ Int.fract q ≠ 0 ∧ Int.fract q ≠ 1 / 2

/-- A mantissa without residual bits stands for itself. -/
theorem standsFor_exact (m : Nat) :
    StandsFor (ExtendedMantissa.ofMantissaAndAccuracy m .exact) m where
  floor := Int.floor_natCast m
  round := by norm_num [ExtendedMantissa.ofMantissaAndAccuracy]
  sticky := by simp [ExtendedMantissa.ofMantissaAndAccuracy]

/-- The floor and the fraction of half a number. -/
theorem floor_half (q : ℚ) : ⌊q / 2⌋ = ⌊q⌋ / 2 := by exact_mod_cast Int.floor_div_natCast q 2

theorem fract_half (q : ℚ) : Int.fract (q / 2) = ((⌊q⌋ % 2 : ℤ) + Int.fract q) / 2 := by
  have parts : (⌊q⌋ : ℚ) = 2 * (⌊q⌋ / 2 : ℤ) + (⌊q⌋ % 2 : ℤ) := by
    exact_mod_cast (Int.mul_ediv_add_emod ⌊q⌋ 2).symm
  rw [Int.fract, floor_half, Int.fract]
  linarith

namespace StandsFor

variable {em : ExtendedMantissa} {q : ℚ}

/-- A shift halves the number. -/
theorem shiftRightOne (stands : StandsFor em q) : StandsFor em.shiftRightOne (q / 2) := by
  have nonneg := Int.fract_nonneg q
  have below := Int.fract_lt_one q
  have digit : ⌊q⌋ % 2 = ((em.mantissa % 2 : Nat) : ℤ) := by
    rw [stands.floor]
    omega
  have half := fract_half q
  rw [digit] at half
  have residue : (em.roundBit || em.stickyBit) = true ↔ Int.fract q ≠ 0 := by
    rw [Bool.or_eq_true, stands.round, stands.sticky]
    constructor
    · rintro (large | ⟨nonzero, _⟩)
      · intro zero
        rw [zero] at large
        norm_num at large
      · exact nonzero
    · intro nonzero
      by_cases large : 1 / 2 ≤ Int.fract q
      · exact Or.inl large
      · exact Or.inr ⟨nonzero, fun same => large same.ge⟩
  refine ⟨?_, ?_, ?_⟩
  · rw [floor_half, stands.floor]
    rfl
  all_goals
    rcases Nat.mod_two_eq_zero_or_one em.mantissa with even | odd
    all_goals simp only [ExtendedMantissa.shiftRightOne, *]
  · norm_num
    linarith
  · norm_num
    linarith
  · constructor
    · intro nonzero
      exact ⟨by positivity, fun same => by norm_num at same; linarith⟩
    · rintro ⟨nonzero, _⟩ zero
      simp [zero] at nonzero
  · constructor
    · intro nonzero
      refine ⟨by positivity, fun same => nonzero ?_⟩
      norm_num at same
      linarith
    · rintro ⟨_, apart⟩ zero
      simp [zero] at apart

/-- Shifts divide by a power of two. -/
theorem shiftRight (stands : StandsFor em q) (n : Nat) : StandsFor (em >>> n) (q / 2 ^ n) := by
  change StandsFor (n.repeat ExtendedMantissa.shiftRightOne em) _
  induction n with
  | zero => simpa [Nat.repeat] using stands
  | succ n ih =>
    have step := ih.shiftRightOne
    rwa [div_div, ← pow_succ] at step

/-- The rounded mantissa is the nearest integer. -/
theorem roundedMantissa (stands : StandsFor em q) : (em.roundedMantissa : ℤ) = nearestEven q := by
  have fraction : q - ⌊q⌋ = Int.fract q := Int.self_sub_floor q
  have round := stands.round
  have sticky := stands.sticky
  rw [nearestEven, fraction, stands.floor]
  obtain ⟨m, roundBit, stickyBit⟩ := em
  cases roundBit <;> cases stickyBit
  · have small : Int.fract q < 1 / 2 := by simpa using round
    simp only [ExtendedMantissa.roundedMantissa, if_pos small]
    rfl
  · have small : Int.fract q < 1 / 2 := by simpa using round
    simp only [ExtendedMantissa.roundedMantissa, if_pos small]
    rfl
  · have large : 1 / 2 ≤ Int.fract q := by simpa using round
    have half : Int.fract q = 1 / 2 := by
      by_contra apart
      have nonzero : Int.fract q ≠ 0 := by linarith
      exact Bool.false_ne_true (sticky.mpr ⟨nonzero, apart⟩)
    simp only [ExtendedMantissa.roundedMantissa, half]
    norm_num
    rfl
  · have large : 1 / 2 ≤ Int.fract q := by simpa using round
    have apart : Int.fract q ≠ 1 / 2 := (sticky.mp rfl).2
    have above : 1 / 2 < Int.fract q := lt_of_le_of_ne large apart.symm
    rw [if_neg (not_lt.mpr large), if_pos above]
    rfl

end StandsFor

/-- A number with a sign. -/
def signed : Sign → ℚ → ℚ
  | .positive, q => q
  | .negative, q => -q

/-- The exact value of an unpacked double; the values that are not finite count as zero. -/
def value : UnpackedFloat → ℚ
  | .finite sign m e _ => signed sign (m * 2 ^ e)
  | _ => 0

/-- The mantissas and exponents that unpack: of fifty-three bits, or of fewer at the least
exponent. -/
def Canonical : UnpackedFloat → Prop
  | .finite _ m e _ => m < 2 ^ 53 ∧ -1074 ≤ e ∧ (2 ^ 52 ≤ m ∨ e = -1074)
  | _ => True

/-- A double's last place, and a number rounded to it. -/
abbrev place (q : ℚ) : ℤ := lastPlace 52 (-1074) q

abbrev rounded (q : ℚ) : ℚ := Rounding.rounded 52 (-1074) q

theorem log_mul_two_zpow {m : Nat} (positive : 0 < m) (e : ℤ) :
    Int.log 2 ((m : ℚ) * 2 ^ e) = m.log2 + e := by
  have unit := two_zpow_pos e
  have below : (2 : ℚ) ^ m.log2 ≤ m := by exact_mod_cast Nat.log2_self_le positive.ne'
  have above : (m : ℚ) < 2 ^ (m.log2 + 1) := by exact_mod_cast Nat.lt_log2_self
  apply log_eq
  · rw [zpow_add₀ (by norm_num), zpow_natCast]
    exact mul_le_mul_of_nonneg_right below unit.le
  · rw [add_right_comm, zpow_add₀ (by norm_num)]
    exact mul_lt_mul_of_pos_right (by exact_mod_cast above) unit

/-- The exponent the model shifts to is the exponent of the last place. -/
theorem targetExponent_eq {m : Nat} (positive : 0 < m) (e : ℤ) :
    Format.binary64.targetExponent (totalExponent m e) = place (m * 2 ^ e) := by
  have log := log_mul_two_zpow positive e
  simp only [place, lastPlace, log, Format.targetExponent, totalExponent, Format.mantissaBits,
    Format.minExponent]
  omega

/-- The first shift leaves the number in its last places. -/
theorem shiftToTargetExponent_standsFor {m : Nat} (positive : 0 < m) {e : ℤ}
    (fine : e ≤ place (m * 2 ^ e)) :
    (shiftToTargetExponent Format.binary64 m e .exact).2 = place (m * 2 ^ e) ∧
      StandsFor (shiftToTargetExponent Format.binary64 m e .exact).1
        (m * 2 ^ e / 2 ^ place (m * 2 ^ e)) := by
  have amount : ((place (m * 2 ^ e) - e).toNat : ℤ) = place (m * 2 ^ e) - e :=
    Int.toNat_of_nonneg (by omega)
  have divided : (m : ℚ) * 2 ^ e / 2 ^ place (m * 2 ^ e) =
      m / 2 ^ (place (m * 2 ^ e) - e).toNat := by
    rw [← zpow_natCast, amount, zpow_sub₀ (by norm_num), div_div_eq_mul_div]
  simp only [shiftToTargetExponent, shiftToExponent, targetExponent_eq positive]
  constructor
  · omega
  · rw [divided]
    exact (standsFor_exact m).shiftRight _

/-- A mantissa of fifty-three bits stays where it is. -/
theorem shiftToTargetExponent_small {m : Nat} {e : ℤ} (small : m < 2 ^ 53) (least : -1074 ≤ e) :
    shiftToTargetExponent Format.binary64 m e .exact = (⟨m, false, false⟩, e) := by
  have log : m.log2 ≤ 52 := by
    by_cases zero : m = 0
    · rw [zero]
      decide
    · have bits := (Nat.log2_lt zero).mpr small
      omega
  have amount : (Format.binary64.targetExponent (totalExponent m e) - e).toNat = 0 := by
    simp only [Format.targetExponent, totalExponent, Format.mantissaBits, Format.minExponent]
    omega
  simp only [shiftToTargetExponent, shiftToExponent, amount, Nat.cast_zero, add_zero]
  rfl

/-- A mantissa that rounding carried to the next power of two moves by one place. -/
theorem shiftToTargetExponent_carry {e : ℤ} (least : -1074 ≤ e) :
    shiftToTargetExponent Format.binary64 (2 ^ 53) e .exact = (⟨2 ^ 52, false, false⟩, e + 1) := by
  have log : (2 ^ 53 : Nat).log2 = 53 := Nat.log2_two_pow
  have amount : (Format.binary64.targetExponent (totalExponent (2 ^ 53) e) - e).toNat = 1 := by
    simp only [Format.targetExponent, totalExponent, log, Format.mantissaBits, Format.minExponent]
    omega
  simp only [shiftToTargetExponent, shiftToExponent, amount, Nat.cast_one]
  rfl

/-- The mantissa before the carry: at most the next power of two, and full unless the last place is
the least. -/
theorem nearest_bounds {q : ℚ} (positive : 0 < q) :
    0 ≤ nearestEven (q / 2 ^ place q) ∧ nearestEven (q / 2 ^ place q) ≤ 2 ^ 53 ∧
      (2 ^ 52 ≤ nearestEven (q / 2 ^ place q) ∨ place q = -1074) := by
  have unit := two_zpow_pos (place q)
  refine ⟨le_nearestEven ?_, nearestEven_le ?_, ?_⟩
  · rw [Int.cast_zero]
    exact (div_pos positive unit).le
  · have reach : Int.log 2 q + 1 ≤ 53 + place q := by
      simp only [place, lastPlace]
      omega
    have below := (lt_two_zpow_log q).le.trans (two_zpow_le reach)
    rw [zpow_add₀ (by norm_num)] at below
    rw [div_le_iff₀ unit]
    exact_mod_cast below
  · by_cases least : place q = -1074
    · exact Or.inr least
    · left
      apply le_nearestEven
      have reach : 52 + place q = Int.log 2 q := by
        simp only [place, lastPlace] at least ⊢
        omega
      have above := two_zpow_log_le positive
      rw [← reach, zpow_add₀ (by norm_num)] at above
      rw [le_div_iff₀ unit]
      exact_mod_cast above

/-- What rounding makes of a mantissa whose exponent is not above its last place: a canonical double
or a zero, of the rounded value. -/
structure RoundsTo (q : ℚ) (u : UnpackedFloat) : Prop where
  canonical : Canonical u
  finite : u.isFinite = true
  value : value u = rounded q

theorem roundWithAccuracy_rounds {m : Nat} (positive : 0 < m) {e : ℤ}
    (fine : e ≤ place (m * 2 ^ e)) :
    RoundsTo (m * 2 ^ e) (roundWithAccuracy Format.binary64 .positive m e .exact) := by
  have number : (0 : ℚ) < m * 2 ^ e := mul_pos (by exact_mod_cast positive) (two_zpow_pos e)
  have least : -1074 ≤ place (m * 2 ^ e) := le_max_right _ _
  obtain ⟨exponent, stands⟩ := shiftToTargetExponent_standsFor positive fine
  obtain ⟨_, most, full⟩ := nearest_bounds number
  have result : rounded (m * 2 ^ e) =
      (shiftToTargetExponent Format.binary64 m e .exact).1.roundedMantissa *
        2 ^ place (m * 2 ^ e) := by
    rw [rounded, Rounding.rounded, ← stands.roundedMantissa, Int.cast_natCast]
  rw [← stands.roundedMantissa] at most full
  cases first : shiftToTargetExponent Format.binary64 m e .exact with
  | mk em t =>
  simp only [first] at exponent result most full
  rw [← exponent] at least full result
  by_cases small : em.roundedMantissa < 2 ^ 53
  · have shifted := shiftToTargetExponent_small small least
    by_cases zero : em.roundedMantissa = 0
    · have rounds : roundWithAccuracy Format.binary64 .positive m e .exact = .zero .positive := by
        rw [zero] at shifted
        simp only [roundWithAccuracy, first, zero, shifted]
        rfl
      rw [rounds]
      refine ⟨trivial, rfl, ?_⟩
      simp [value, result, zero]
    · have rounds : roundWithAccuracy Format.binary64 .positive m e .exact =
          .finite .positive em.roundedMantissa t (Nat.pos_of_ne_zero zero) := by
        simp only [roundWithAccuracy, first, shifted, zero]
        rfl
      rw [rounds]
      refine ⟨⟨small, least, ?_⟩, rfl, ?_⟩
      · rcases full with full | full
        · exact Or.inl (by exact_mod_cast full)
        · exact Or.inr full
      · rw [result]
        rfl
  · have carry : em.roundedMantissa = 2 ^ 53 := by omega
    have rounds : roundWithAccuracy Format.binary64 .positive m e .exact =
        .finite .positive (2 ^ 52) (t + 1) (by decide) := by
      simp only [roundWithAccuracy, first, carry, shiftToTargetExponent_carry least]
      rfl
    rw [rounds]
    refine ⟨⟨by decide, by omega, Or.inl le_rfl⟩, rfl, ?_⟩
    have same : ((2 ^ 52 : Nat) : ℚ) * 2 ^ (t + 1) = ((2 ^ 53 : Nat) : ℚ) * 2 ^ t := by
      rw [zpow_add₀ (by norm_num), zpow_one]
      push_cast
      ring
    rw [result, carry, ← same]
    rfl

section Packing

/-- The sign is packed above the exponent and the mantissa. -/
theorem unpackSign_packComponents {format : Format} (sign : Sign)
    (exponent : BitVec format.exponentBits)
    (mantissa : BitVec format.mantissaBitsWithoutImplicit) :
    unpackSign (packComponents format sign exponent mantissa) = sign.toBitVec := by
  apply BitVec.eq_of_getLsbD_eq
  intro i inside
  obtain rfl : i = 0 := by omega
  simp [unpackSign, packComponents, BitVec.getLsbD_append, BitVec.getElem_append]

variable (sign : Sign) (exponent : BitVec 11) (mantissa : BitVec 52)

/-- The implicit bit stands above the stored mantissa. -/
theorem toNat_implicit : (1#1 ++ mantissa).toNat = 2 ^ 52 + mantissa.toNat := by
  rw [BitVec.toNat_append, ← Nat.shiftLeft_add_eq_or_of_lt mantissa.isLt]
  rfl

/-- An exponent between the two reserved ones is that of a full mantissa. -/
theorem unpack_normal (infinite : exponent ≠ -1#_) (subnormal : exponent ≠ 0#_) :
    unpack Format.binary64 (packComponents Format.binary64 sign exponent mantissa) =
      .finite sign (2 ^ 52 + mantissa.toNat) (exponent.toNat - 1075) (by omega) := by
  have code : Sign.ofBitVec sign.toBitVec = sign := by cases sign <;> rfl
  simp only [unpack, unpackExponent_packComponents, unpackMantissa_packComponents,
    unpackSign_packComponents, code, if_neg infinite, if_neg subnormal, toNat_implicit]
  rfl

theorem unpack_subnormal (nonzero : mantissa ≠ 0#_) :
    unpack Format.binary64 (packComponents Format.binary64 sign 0#11 mantissa) =
      .finite sign mantissa.toNat (-1074)
        (Nat.pos_of_ne_zero fun zero => nonzero (BitVec.eq_of_toNat_eq zero)) := by
  have code : Sign.ofBitVec sign.toBitVec = sign := by cases sign <;> rfl
  have finite : (0#11) ≠ -1#11 := by decide
  simp only [unpack, unpackExponent_packComponents, unpackMantissa_packComponents,
    unpackSign_packComponents, code, if_neg finite, if_pos, dif_neg nonzero]
  rfl

/-- A full mantissa packs without its leading bit, and any other with the reserved exponent. -/
theorem pack_normal {m : Nat} {e : ℤ} {positive : 0 < m} (bits : 2 ^ 52 ≤ m ∧ m < 2 ^ 53)
    (fits : -1074 ≤ e ∧ e ≤ 971) :
    pack Format.binary64 (.finite sign m e positive) =
      packComponents Format.binary64 sign (BitVec.ofNat 11 (e + 1075).toNat) (BitVec.ofNat 52 m) := by
  have bias : (e + Format.binary64.exponentBias + Format.binary64.mantissaBitsWithoutImplicit).toNat =
      (e + 1075).toNat := by
    change (e + 1023 + 52).toNat = _
    omega
  have small : ¬ 2 ^ Format.binary64.exponentBits ≤ (e + 1075).toNat + 1 := by
    change ¬ 2 ^ 11 ≤ _
    omega
  have log : m.log2 + 1 = Format.binary64.mantissaBits :=
    congrArg (· + 1) ((Nat.log2_eq_iff positive.ne').mpr bits)
  simp only [pack, bias, if_neg small, if_pos log]

theorem pack_subnormal {m : Nat} {positive : 0 < m} (bits : m < 2 ^ 52) :
    pack Format.binary64 (.finite sign m (-1074) positive) =
      packComponents Format.binary64 sign 0#11 (BitVec.ofNat 52 m) := by
  have small : ¬ 2 ^ Format.binary64.exponentBits ≤
      ((-1074 : ℤ) + Format.binary64.exponentBias +
        Format.binary64.mantissaBitsWithoutImplicit).toNat + 1 := by
    change ¬ 2 ^ 11 ≤ ((-1074 : ℤ) + 1023 + 52).toNat + 1
    omega
  have log : ¬ m.log2 + 1 = Format.binary64.mantissaBits := by
    intro same
    have below : m.log2 < 52 := (Nat.log2_lt positive.ne').mpr bits
    change _ = 53 at same
    omega
  simp only [pack, if_neg small, if_neg log]

/-- A canonical double that is not above the greatest exponent unpacks as it was packed. -/
theorem unpack_pack {m : Nat} {e : ℤ} {positive : 0 < m}
    (canonical : Canonical (.finite sign m e positive)) (fits : e ≤ 971) :
    unpack Format.binary64 (pack Format.binary64 (.finite sign m e positive)) =
      .finite sign m e positive := by
  obtain ⟨bits, least, full⟩ := canonical
  by_cases normal : 2 ^ 52 ≤ m
  · have stored : (BitVec.ofNat 11 (e + 1075).toNat).toNat = (e + 1075).toNat := by
      rw [BitVec.toNat_ofNat, Nat.mod_eq_of_lt (by omega)]
    have fraction : (BitVec.ofNat 52 m).toNat = m - 2 ^ 52 := by
      rw [BitVec.toNat_ofNat]
      omega
    rw [pack_normal sign ⟨normal, bits⟩ ⟨least, fits⟩]
    refine (unpack_normal _ _ _ ?_ ?_).trans ?_
    · intro reserved
      have same := congrArg BitVec.toNat reserved
      rw [stored] at same
      change _ = 2047 at same
      omega
    · intro reserved
      have same := congrArg BitVec.toNat reserved
      rw [stored] at same
      change _ = 0 at same
      omega
    · congr 1
      · omega
      · rw [stored]
        omega
  · obtain rfl : e = -1074 := full.resolve_left normal
    have fraction : (BitVec.ofNat 52 m).toNat = m := by
      rw [BitVec.toNat_ofNat, Nat.mod_eq_of_lt (by omega)]
    rw [pack_subnormal sign (by omega)]
    refine (unpack_subnormal _ _ ?_).trans ?_
    · intro zero
      have same := congrArg BitVec.toNat zero
      rw [fraction] at same
      change m = 0 at same
      omega
    · congr 1

/-- Above the greatest exponent packing gives an infinity. -/
theorem unpack_pack_infinite {m : Nat} {e : ℤ} (positive : 0 < m) (beyond : 971 < e) :
    unpack Format.binary64 (pack Format.binary64 (.finite sign m e positive)) =
      .infinity sign := by
  have large : 2 ^ Format.binary64.exponentBits ≤
      (e + Format.binary64.exponentBias +
        Format.binary64.mantissaBitsWithoutImplicit).toNat + 1 := by
    change 2 ^ 11 ≤ (e + 1023 + 52).toNat + 1
    omega
  simp only [pack, if_pos large]
  cases sign <;> rfl

/-- What unpacks as a finite double is not above the greatest exponent. -/
theorem exponent_le_of_unpack {b : BitVec Format.binary64.numBits} {m : Nat} {e : ℤ}
    {positive : 0 < m} (unpacked : unpack Format.binary64 b = .finite sign m e positive) :
    e ≤ 971 := by
  have bound : (unpackExponent b).toNat < 2 ^ 11 := (unpackExponent b).isLt
  unfold unpack at unpacked
  dsimp only at unpacked
  split_ifs at unpacked with infinite zero subnormal zero
  · cases unpacked
    have least : ((unpackExponent b).toNat : ℤ) = 0 := by rw [subnormal]; rfl
    have exponent : ((unpackExponent b).toNat : ℤ) - (1023 + 52) + 1 ≤ 971 := by omega
    exact exponent
  · cases unpacked
    have reserved : (unpackExponent b).toNat ≠ 2047 := fun same =>
      infinite (BitVec.eq_of_toNat_eq same)
    have exponent : ((unpackExponent b).toNat : ℤ) - (1023 + 52) ≤ 971 := by omega
    exact exponent

/-- What unpacks is canonical. -/
theorem canonical_unpack (b : BitVec Format.binary64.numBits) :
    Canonical (unpack Format.binary64 b) := by
  have fraction : (unpackMantissa b).toNat < 2 ^ 52 := (unpackMantissa b).isLt
  unfold unpack
  dsimp only
  split_ifs with infinite zero subnormal zero
  · trivial
  · trivial
  · trivial
  · have least : ((unpackExponent b).toNat : ℤ) = 0 := by rw [subnormal]; rfl
    have exponent : ((unpackExponent b).toNat : ℤ) - (1023 + 52) + 1 = -1074 := by omega
    exact ⟨by omega, exponent.ge, Or.inr exponent⟩
  · have nonzero : (unpackExponent b).toNat ≠ 0 := fun zero =>
      subnormal (BitVec.eq_of_toNat_eq zero)
    have exponent : -1074 ≤ ((unpackExponent b).toNat : ℤ) - (1023 + 52) := by omega
    have whole := toNat_implicit (unpackMantissa b)
    exact ⟨by omega, exponent, Or.inl (by omega)⟩

/-- The sign, the exponent and the mantissa are all of a packed double. -/
theorem fields_inj {b b' : BitVec Format.binary64.numBits}
    (sign : @unpackSign Format.binary64 b = unpackSign b')
    (exponent : @unpackExponent Format.binary64 b = unpackExponent b')
    (mantissa : @unpackMantissa Format.binary64 b = unpackMantissa b') : b = b' := by
  apply BitVec.eq_of_getLsbD_eq
  intro i inside
  by_cases low : i < 52
  · have bit := congrArg (BitVec.getLsbD · i) mantissa
    simpa [unpackMantissa, low] using bit
  · by_cases middle : i < 63
    · have bit := congrArg (BitVec.getLsbD · (i - 52)) exponent
      have within : i - 52 < 11 := by omega
      have back : 52 + (i - 52) = i := by omega
      simpa [unpackExponent, within, back] using bit
    · have bit := congrArg (BitVec.getLsbD · 0) sign
      have top : i = 63 := by
        change i < 64 at inside
        omega
      simpa [unpackSign, top] using bit

/-- The reserved exponent is that of the values that are not finite. -/
theorem unpack_reserved :
    (unpack Format.binary64 (packComponents Format.binary64 sign (-1#11) mantissa)).isFinite =
      false := by
  simp only [unpack, unpackExponent_packComponents, unpackMantissa_packComponents, if_pos]
  split_ifs <;> rfl

/-- Finite components pack as they were unpacked. -/
theorem pack_unpack_components
    (finite : (unpack Format.binary64
      (packComponents Format.binary64 sign exponent mantissa)).isFinite = true) :
    pack Format.binary64
        (unpack Format.binary64 (packComponents Format.binary64 sign exponent mantissa)) =
      packComponents Format.binary64 sign exponent mantissa := by
  have fraction := mantissa.isLt
  have bound := exponent.isLt
  by_cases reserved : exponent = -1#11
  · rw [reserved, unpack_reserved] at finite
    cases finite
  by_cases subnormal : exponent = 0#11
  · subst subnormal
    by_cases zero : mantissa = 0#52
    · subst zero
      cases sign <;> rfl
    · rw [unpack_subnormal _ _ zero, pack_subnormal sign fraction, BitVec.ofNat_toNat,
        BitVec.setWidth_eq]
  · have low : exponent.toNat ≠ 0 := fun same => subnormal (BitVec.eq_of_toNat_eq same)
    have high : exponent.toNat ≠ 2047 := fun same => reserved (BitVec.eq_of_toNat_eq same)
    have stored : ((exponent.toNat : ℤ) - 1075 + 1075).toNat = exponent.toNat := by omega
    have dropped : BitVec.ofNat 52 (2 ^ 52 + mantissa.toNat) = mantissa := by
      apply BitVec.eq_of_toNat_eq
      rw [BitVec.toNat_ofNat]
      omega
    rw [unpack_normal _ _ _ reserved subnormal,
      pack_normal sign ⟨by omega, by omega⟩ ⟨by omega, by omega⟩, stored, dropped,
      BitVec.ofNat_toNat, BitVec.setWidth_eq]

/-- A finite double packs as it was unpacked. -/
theorem pack_unpack {b : BitVec Format.binary64.numBits}
    (finite : (unpack Format.binary64 b).isFinite = true) :
    pack Format.binary64 (unpack Format.binary64 b) = b := by
  have code : (Sign.ofBitVec (unpackSign b)).toBitVec = unpackSign b := by
    generalize unpackSign b = bit
    revert bit
    decide
  have parts : packComponents Format.binary64 (Sign.ofBitVec (unpackSign b)) (unpackExponent b)
      (unpackMantissa b) = b :=
    fields_inj (by rw [unpackSign_packComponents, code]) unpackExponent_packComponents
      unpackMantissa_packComponents
  rw [← parts] at finite ⊢
  exact pack_unpack_components _ _ _ finite

end Packing

/-- A canonical double is in range unless its exponent is too great. -/
theorem lt_range_iff {m : Nat} {e : ℤ} {positive : 0 < m}
    (canonical : Canonical (.finite .positive m e positive)) :
    (m : ℚ) * 2 ^ e < 2 ^ (1024 : ℤ) ↔ e ≤ 971 := by
  obtain ⟨bits, _, full⟩ := canonical
  have unit := two_zpow_pos e
  constructor
  · intro below
    by_contra beyond
    have bits' : (2 : ℚ) ^ (52 : ℤ) ≤ m := by exact_mod_cast full.resolve_right (by omega)
    have above := mul_le_mul_of_nonneg_right bits' unit.le
    rw [← zpow_add₀ (by norm_num)] at above
    have reach := two_zpow_le (show (1024 : ℤ) ≤ 52 + e by omega)
    linarith
  · intro fits
    have bits' : (m : ℚ) < 2 ^ (53 : ℤ) := by exact_mod_cast bits
    have below := mul_lt_mul_of_pos_right bits' unit
    rw [← zpow_add₀ (by norm_num)] at below
    exact below.trans_le (two_zpow_le (by omega))

/-- The end of the range: what lies from here on rounds past the greatest double. -/
def range : ℚ := 2 ^ (1024 : ℤ) - 2 ^ (970 : ℤ)

/-- The powers of two that are doubles lie within the range, and the next one does not. -/
theorem two_zpow_lt_range {k : ℤ} : (2 : ℚ) ^ k < range ↔ k ≤ 1023 := by
  have half : (2 : ℚ) ^ (1024 : ℤ) = 2 * 2 ^ (1023 : ℤ) := two_zpow_double 1024
  have gap : (2 : ℚ) ^ (970 : ℤ) < 2 ^ (1023 : ℤ) := zpow_lt_zpow_right₀ (by norm_num) (by norm_num)
  have positive := two_zpow_pos 970
  have below : k ≤ 1023 → (2 : ℚ) ^ k ≤ 2 ^ (1023 : ℤ) := two_zpow_le
  have above : 1024 ≤ k → (2 : ℚ) ^ (1024 : ℤ) ≤ 2 ^ k := two_zpow_le
  rw [range]
  generalize (2 : ℚ) ^ (1024 : ℤ) = whole at *
  generalize (2 : ℚ) ^ (1023 : ℤ) = part at *
  generalize (2 : ℚ) ^ (970 : ℤ) = rest at *
  constructor
  · intro within
    by_contra beyond
    have reached := above (by omega)
    linarith
  · intro small
    have reached := below small
    linarith

theorem rounded_lt_range {q : ℚ} (nonneg : 0 ≤ q) : rounded q < 2 ^ (1024 : ℤ) ↔ q < range :=
  rounded_lt_two_zpow nonneg (by norm_num)

/-- A packed double is finite when its number is within the range, and then has the rounded value. -/
theorem RoundsTo.packed {q : ℚ} {u : UnpackedFloat} (rounds : RoundsTo q u) (nonneg : 0 ≤ q) :
    ((Float.Model.pack u).unpack.isFinite = true ↔ q < range) ∧
      (q < range → Foundation.Doubles.value (Float.Model.pack u).unpack = rounded q) := by
  have number := rounds.value
  have finite := rounds.finite
  have canonical := rounds.canonical
  rw [← rounded_lt_range nonneg]
  cases u with
  | infinity sign => cases finite
  | notANumber => cases finite
  | zero sign =>
    have packed : (Float.Model.pack (.zero sign)).unpack = .zero sign := by cases sign <;> rfl
    rw [packed, ← number]
    refine ⟨⟨fun _ => two_zpow_pos _, fun _ => rfl⟩, fun _ => rfl⟩
  | finite sign m e positive =>
    cases sign with
    | negative =>
      have above : 0 ≤ rounded q := rounded_nonneg nonneg
      have below : 0 < (m : ℚ) * 2 ^ e := mul_pos (by exact_mod_cast positive) (two_zpow_pos e)
      change -((m : ℚ) * 2 ^ e) = rounded q at number
      linarith
    | positive =>
      rw [← number]
      change (_ ↔ (m : ℚ) * 2 ^ e < _) ∧ ((m : ℚ) * 2 ^ e < _ → _)
      rw [lt_range_iff canonical]
      by_cases fits : e ≤ 971
      · have packed : (Float.Model.pack (.finite .positive m e positive)).unpack =
            .finite .positive m e positive := unpack_pack .positive canonical fits
        rw [packed]
        exact ⟨⟨fun _ => fits, fun _ => rfl⟩, fun _ => rfl⟩
      · have packed : (Float.Model.pack (.finite .positive m e positive)).unpack =
            .infinity .positive := unpack_pack_infinite .positive positive (by omega)
        rw [packed]
        refine ⟨⟨fun impossible => ?_, fun impossible => absurd impossible fits⟩,
          fun impossible => absurd impossible fits⟩
        cases impossible

theorem floatValue_eq (x : Float) : floatValue x = value x.toModel.unpack := by
  unfold floatValue value
  cases x.toModel.unpack with
  | finite sign m e positive =>
    cases sign with
    | positive => rfl
    | negative => exact neg_mul _ _
  | _ => rfl

/-- An unpacked double that is finite and not negative: a zero, or a positive mantissa. -/
theorem nonneg_cases {u : UnpackedFloat} (finite : u.isFinite = true) (nonneg : 0 ≤ value u) :
    (∃ sign, u = .zero sign) ∨ ∃ m e positive, u = .finite .positive m e positive := by
  cases u with
  | infinity sign => cases finite
  | notANumber => cases finite
  | zero sign => exact Or.inl ⟨sign, rfl⟩
  | finite sign m e positive =>
    cases sign with
    | positive => exact Or.inr ⟨m, e, positive, rfl⟩
    | negative =>
      have above : 0 < (m : ℚ) * 2 ^ e := mul_pos (by exact_mod_cast positive) (two_zpow_pos e)
      change 0 ≤ -((m : ℚ) * 2 ^ e) at nonneg
      linarith

/-- A canonical double is a multiple of its last place. -/
theorem rounded_value {u : UnpackedFloat} (canonical : Canonical u) (finite : u.isFinite = true)
    (nonneg : 0 ≤ value u) : rounded (value u) = value u := by
  rcases nonneg_cases finite nonneg with ⟨sign, rfl⟩ | ⟨m, e, positive, rfl⟩
  · exact rounded_zero
  · obtain ⟨bits, least, _⟩ := canonical
    have log := log_mul_two_zpow positive e
    have small : m.log2 < 53 := (Nat.log2_lt positive.ne').mpr bits
    have fine : place (m * 2 ^ e) ≤ e := by
      rw [place, lastPlace, log]
      omega
    change rounded ((m : ℚ) * 2 ^ e) = (m : ℚ) * 2 ^ e
    refine rounded_eq_self (n := m * 2 ^ (e - place (m * 2 ^ e)).toNat) ?_
    have unit := two_zpow_split fine
    push_cast at unit ⊢
    rw [mul_assoc, ← unit]

/-- The place of a canonical double is its exponent. -/
theorem place_canonical {m : Nat} {e : ℤ} {positive : 0 < m}
    (canonical : Canonical (.finite .positive m e positive)) : place (m * 2 ^ e) = e := by
  obtain ⟨bits, least, full⟩ := canonical
  have log := log_mul_two_zpow positive e
  have small : m.log2 < 53 := (Nat.log2_lt positive.ne').mpr bits
  have large : 2 ^ 52 ≤ m → 52 ≤ m.log2 := (Nat.le_log2 positive.ne').mpr
  rw [place, lastPlace, log]
  rcases full with full | full
  · have bound := large full
    omega
  · omega

/-- Canonical positive doubles of one value are one. -/
theorem canonical_inj {m m' : Nat} {e e' : ℤ} {positive : 0 < m} {positive' : 0 < m'}
    (canonical : Canonical (.finite .positive m e positive))
    (canonical' : Canonical (.finite .positive m' e' positive'))
    (same : (m : ℚ) * 2 ^ e = m' * 2 ^ e') : m = m' ∧ e = e' := by
  have exponents : e = e' := by
    rw [← place_canonical canonical, ← place_canonical canonical', same]
  subst exponents
  have unit := two_zpow_pos e
  exact ⟨by exact_mod_cast mul_right_cancel₀ unit.ne' same, rfl⟩

/-- The exact quotient of a mantissa by one, at an exponent that is not greater. -/
theorem divCore_one {m : Nat} {e : ℤ} {positive : 0 < m}
    (canonical : Canonical (.finite .positive m e positive)) :
    ∃ t ≤ e, divCore Format.binary64 m e (2 ^ 52) (-52) = (m * 2 ^ (e - t).toNat, t, .exact) := by
  obtain ⟨bits, least, _⟩ := canonical
  have small : m.log2 < 53 := (Nat.log2_lt positive.ne').mpr bits
  have log : (2 ^ 52 : Nat).log2 = 52 := Nat.log2_two_pow
  have below : min (e - -52) (Format.binary64.targetExponent
      (totalExponent m e - totalExponent (2 ^ 52) (-52))) ≤ e := by
    simp only [Format.targetExponent, totalExponent, log, Format.mantissaBits, Format.minExponent]
    omega
  refine ⟨_, below, ?_⟩
  simp only [divCore]
  generalize min (e - -52) (Format.binary64.targetExponent
    (totalExponent m e - totalExponent (2 ^ 52) (-52))) = t at below
  have shift : (e - -52 - t).toNat = (e - t).toNat + 52 := by omega
  have whole : m <<< (e - -52 - t).toNat = m * 2 ^ (e - t).toNat * 2 ^ 52 := by
    rw [shift, Nat.shiftLeft_eq, pow_add, mul_assoc]
  rw [whole, Nat.mul_div_cancel _ (Nat.two_pow_pos 52), Nat.mul_mod_left]
  rfl

/-- A canonical double that is not negative is its own quotient by one. -/
theorem div_one_canonical {u : UnpackedFloat} (canonical : Canonical u) (finite : u.isFinite = true)
    (nonneg : 0 ≤ value u) :
    UnpackedFloat.div Format.binary64 u (.finite .positive (2 ^ 52) (-52) (by decide)) = u := by
  rcases nonneg_cases finite nonneg with ⟨sign, rfl⟩ | ⟨m, e, positive, rfl⟩
  · cases sign <;> rfl
  · obtain ⟨t, below, quotient⟩ := divCore_one canonical
    have same : ((m * 2 ^ (e - t).toNat : Nat) : ℚ) * 2 ^ t = m * 2 ^ e := by
      rw [two_zpow_split below]
      push_cast
      ring
    have more : 0 < m * 2 ^ (e - t).toNat := Nat.mul_pos positive (Nat.two_pow_pos _)
    have rounds := roundWithAccuracy_rounds more (e := t)
      (by rw [same, place_canonical canonical]; exact below)
    rw [same] at rounds
    have kept := rounded_value canonical finite nonneg
    change rounded ((m : ℚ) * 2 ^ e) = (m : ℚ) * 2 ^ e at kept
    have number := rounds.value
    rw [kept] at number
    have divided : UnpackedFloat.div Format.binary64 (.finite .positive m e positive)
        (.finite .positive (2 ^ 52) (-52) (by decide)) =
        roundWithAccuracy Format.binary64 .positive (m * 2 ^ (e - t).toNat) t .exact := by
      simp only [UnpackedFloat.div, quotient]
      rfl
    rw [divided]
    have nonneg' : 0 ≤ value (roundWithAccuracy Format.binary64 .positive
        (m * 2 ^ (e - t).toNat) t .exact) := by
      rw [number]
      exact nonneg
    rcases nonneg_cases rounds.finite nonneg' with ⟨sign, zero⟩ | ⟨m', e', positive', result⟩
    · rw [zero] at number
      have above : 0 < (m : ℚ) * 2 ^ e := mul_pos (by exact_mod_cast positive) (two_zpow_pos e)
      exact absurd number above.ne
    · have canonical' := rounds.canonical
      rw [result] at canonical' number ⊢
      obtain ⟨rfl, rfl⟩ := canonical_inj canonical' canonical number
      rfl

/-- The product of two canonical doubles that are not negative is rounded once. -/
theorem mul_rounds {u v : UnpackedFloat} (canonical : Canonical u) (canonical' : Canonical v)
    (finite : u.isFinite = true) (finite' : v.isFinite = true) (nonneg : 0 ≤ value u)
    (nonneg' : 0 ≤ value v) :
    RoundsTo (value u * value v) (UnpackedFloat.mul Format.binary64 u v) := by
  rcases nonneg_cases finite nonneg with ⟨sign, rfl⟩ | ⟨m, e, positive, rfl⟩
  · rcases nonneg_cases finite' nonneg' with ⟨sign', rfl⟩ | ⟨m', e', positive', rfl⟩
    all_goals exact ⟨trivial, rfl, by simp [value, UnpackedFloat.mul]⟩
  · rcases nonneg_cases finite' nonneg' with ⟨sign', rfl⟩ | ⟨m', e', positive', rfl⟩
    · exact ⟨trivial, rfl, by simp [value, UnpackedFloat.mul]⟩
    · have product : (m : ℚ) * 2 ^ e * ((m' : ℚ) * 2 ^ e') = (m * m' : Nat) * 2 ^ (e + e') := by
        rw [zpow_add₀ (by norm_num), Nat.cast_mul]
        ring
      change RoundsTo ((m : ℚ) * 2 ^ e * ((m' : ℚ) * 2 ^ e'))
        (roundWithAccuracy Format.binary64 .positive (m * m') (e + e') .exact)
      rw [product]
      refine roundWithAccuracy_rounds (Nat.mul_pos positive positive') ?_
      have log := log_mul_two_zpow (Nat.mul_pos positive positive') (e + e')
      have full : 52 ≤ (m * m').log2 ∨ e + e' ≤ -1074 := by
        have logs {k : Nat} (large : 2 ^ 52 ≤ k) : 52 ≤ k.log2 :=
          (Nat.le_log2 (by omega)).mpr large
        rcases canonical.2.2 with large | least
        · exact Or.inl (logs (large.trans (Nat.le_mul_of_pos_right m positive')))
        · rcases canonical'.2.2 with large | least'
          · exact Or.inl (logs (large.trans (Nat.le_mul_of_pos_left m' positive)))
          · exact Or.inr (by omega)
      rw [place, lastPlace, log]
      omega

/-- An integer that is not negative is rounded once. -/
theorem ofInt_rounds (n : Nat) : RoundsTo n (UnpackedFloat.ofInt Format.binary64 n) := by
  rcases Nat.eq_zero_or_pos n with rfl | positive
  · exact ⟨trivial, rfl, by simp [value, UnpackedFloat.ofInt, UnpackedFloat.normalize]⟩
  · have order : compare (n : ℤ) 0 = .gt := Int.compare_eq_gt.mpr (by omega)
    have target := targetExponent_eq positive 0
    rw [zpow_zero, mul_one] at target
    have shifted : ((n <<< (0 - place n).toNat : Nat) : ℚ) * 2 ^ (0 - (0 - place n).toNat : ℤ) =
        n := by
      rw [Nat.shiftLeft_eq, Nat.cast_mul, Nat.cast_pow, Nat.cast_ofNat, mul_assoc, ← zpow_natCast,
        ← zpow_add₀ (by norm_num), add_sub_cancel, zpow_zero, mul_one]
    simp only [UnpackedFloat.ofInt, UnpackedFloat.normalize, order, UnpackedFloat.round,
      Int.toNat_natCast, target, decreaseExponent]
    have rounds := roundWithAccuracy_rounds (m := n <<< (0 - place n).toNat)
      (e := 0 - (0 - place n).toNat) ?_ ?_
    · rwa [shifted] at rounds
    · rw [Nat.shiftLeft_eq]
      exact Nat.mul_pos positive (Nat.two_pow_pos _)
    · rw [shifted]
      omega

/-- Nothing finite comes of a factor that is not. -/
theorem mul_not_finite {u : UnpackedFloat} (infinite : ¬ u.isFinite = true) (v : UnpackedFloat) :
    UnpackedFloat.mul Format.binary64 u v = .notANumber ∨
      ∃ sign, UnpackedFloat.mul Format.binary64 u v = .infinity sign := by
  cases u with
  | finite sign m e positive => exact absurd rfl infinite
  | zero sign => exact absurd rfl infinite
  | notANumber => exact Or.inl rfl
  | infinity sign =>
    cases v with
    | notANumber => exact Or.inl rfl
    | zero sign' => exact Or.inl rfl
    | infinity sign' => exact Or.inr ⟨_, rfl⟩
    | finite sign' m e positive => exact Or.inr ⟨_, rfl⟩

section Floats

variable {x y : Float}

theorem rounded_floatValue (finite : x.isFinite = true) (nonneg : 0 ≤ floatValue x) :
    rounded (floatValue x) = floatValue x := by
  rw [floatValue_eq] at nonneg ⊢
  exact rounded_value (canonical_unpack _) finite nonneg

/-- A finite double lies within the range. -/
theorem floatValue_lt_range (finite : x.isFinite = true) (nonneg : 0 ≤ floatValue x) :
    floatValue x < range := by
  have kept := rounded_floatValue finite nonneg
  rw [← rounded_lt_range nonneg, kept]
  rw [floatValue_eq] at nonneg ⊢
  change x.toModel.unpack.isFinite = true at finite
  cases unpacked : x.toModel.unpack with
  | finite sign m e positive =>
    have canonical := canonical_unpack x.toModel.toBits.toBitVec
    have fits := exponent_le_of_unpack sign unpacked
    change Canonical x.toModel.unpack at canonical
    rw [unpacked] at canonical nonneg finite
    rcases nonneg_cases finite nonneg with ⟨zero, impossible⟩ | ⟨m', e', positive', same⟩
    · cases impossible
    · cases same
      exact (lt_range_iff canonical).mpr fits
  | _ => exact two_zpow_pos _

/-- A finite double that is not negative is its own quotient by one. -/
theorem div_one (finite : x.isFinite = true) (nonneg : 0 ≤ floatValue x) : x / 1.0 = x := by
  rw [floatValue_eq] at nonneg
  change x.toModel.unpack.isFinite = true at finite
  have quotient : (x / 1.0).toModel = Float.Model.pack (UnpackedFloat.div Format.binary64
      x.toModel.unpack (.finite .positive (2 ^ 52) (-52) (by decide))) := rfl
  have canonical : Canonical x.toModel.unpack := canonical_unpack _
  rw [div_one_canonical canonical finite nonneg] at quotient
  have bits : (x / 1.0).toModel.toBits = x.toModel.toBits := by
    rw [quotient]
    exact UInt64.toBitVec_inj.mp (pack_unpack finite)
  generalize x / 1.0 = y at bits
  obtain ⟨⟨bits', _⟩⟩ := y
  obtain ⟨⟨bits'', _⟩⟩ := x
  cases bits
  rfl

/-- Multiplying does not bring a double back into the range. -/
theorem isFinite_left_of_mul (finite : (x * y).isFinite = true) : x.isFinite = true := by
  change (Float.Model.pack (UnpackedFloat.mul Format.binary64 x.toModel.unpack
    y.toModel.unpack)).unpack.isFinite = true at finite
  by_contra infinite
  change ¬ x.toModel.unpack.isFinite = true at infinite
  rcases mul_not_finite infinite y.toModel.unpack with same | ⟨sign, same⟩
  · have packed : (Float.Model.pack .notANumber).unpack = .notANumber := rfl
    rw [same, packed] at finite
    cases finite
  · have packed : (Float.Model.pack (.infinity sign)).unpack = .infinity sign := by
      cases sign <;> rfl
    rw [same, packed] at finite
    cases finite

/-- A product of finite doubles that are not negative is finite within the range. -/
theorem isFinite_mul (finite : x.isFinite = true) (finite' : y.isFinite = true)
    (nonneg : 0 ≤ floatValue x) (nonneg' : 0 ≤ floatValue y) :
    (x * y).isFinite = true ↔ floatValue x * floatValue y < range := by
  rw [floatValue_eq] at nonneg nonneg' ⊢
  rw [floatValue_eq]
  have rounds := mul_rounds (canonical_unpack _) (canonical_unpack _) finite finite' nonneg nonneg'
  exact (rounds.packed (mul_nonneg nonneg nonneg')).1

/-- Within the range it is the exact product, rounded once. -/
theorem floatValue_mul (finite : x.isFinite = true) (finite' : y.isFinite = true)
    (nonneg : 0 ≤ floatValue x) (nonneg' : 0 ≤ floatValue y)
    (within : floatValue x * floatValue y < range) :
    floatValue (x * y) = rounded (floatValue x * floatValue y) := by
  simp only [floatValue_eq] at nonneg nonneg' within ⊢
  have rounds := mul_rounds (canonical_unpack _) (canonical_unpack _) finite finite' nonneg nonneg'
  exact (rounds.packed (mul_nonneg nonneg nonneg')).2 within

/-- An integer that is not negative converts within the range, rounded once. -/
theorem isFinite_ofInt (n : Nat) :
    (Float.ofModel (.ofInt n)).isFinite = true ↔ (n : ℚ) < range :=
  ((ofInt_rounds n).packed n.cast_nonneg).1

theorem floatValue_ofInt {n : Nat} (within : (n : ℚ) < range) :
    floatValue (Float.ofModel (.ofInt n)) = rounded n := by
  rw [floatValue_eq]
  exact ((ofInt_rounds n).packed n.cast_nonneg).2 within

end Floats

end Foundation.Doubles

namespace Foundation.Beam.Number

open Foundation.Doubles

/-- The double an operation converts a number to, in the range or not. -/
def toFloat : Number → Float
  | int n => Float.ofModel (.ofInt n)
  | float x _ => x

theorem toFloat?_eq (a : Number) :
    a.toFloat? = if a.toFloat.isFinite = true then some a.toFloat else none := by
  cases a with
  | int n => rfl
  | float x finite => exact (if_pos finite).symm

theorem toFloat?_eq_some {a : Number} {x : Float} :
    a.toFloat? = some x ↔ a.toFloat.isFinite = true ∧ a.toFloat = x := by
  rw [toFloat?_eq]
  split <;> simp [*]

theorem ofFloat?_eq_some {x : Float} {a : Number} :
    ofFloat? x = some a ↔ ∃ finite, a = float x finite := by
  unfold ofFloat?
  split <;> simp [*, eq_comm]

/-- A number that is not negative converts within the range, rounded once. -/
theorem isFinite_toFloat {a : Number} (nonneg : 0 ≤ a.value) :
    a.toFloat.isFinite = true ↔ a.value < range := by
  cases a with
  | int n =>
    obtain ⟨k, rfl⟩ := Int.eq_ofNat_of_zero_le (Int.cast_nonneg_iff.mp nonneg)
    exact isFinite_ofInt k
  | float x finite => exact ⟨fun _ => floatValue_lt_range finite nonneg, fun _ => finite⟩

theorem floatValue_toFloat {a : Number} (nonneg : 0 ≤ a.value) (within : a.value < range) :
    floatValue a.toFloat = rounded a.value := by
  cases a with
  | int n =>
    obtain ⟨k, rfl⟩ := Int.eq_ofNat_of_zero_le (Int.cast_nonneg_iff.mp nonneg)
    exact floatValue_ofInt within
  | float x finite => exact (rounded_floatValue finite nonneg).symm

/-- A product with a double is a double. -/
theorem mul?_float_eq_some {a b : Number} {y : Float} (finite : y.isFinite = true) :
    a.mul? (float y finite) = some b ↔
      a.toFloat.isFinite = true ∧ ∃ finite', b = float (a.toFloat * y) finite' := by
  have product : a.mul? (float y finite) = a.toFloat?.bind fun x => ofFloat? (x * y) := by
    cases a <;> rfl
  simp only [product, Option.bind_eq_some_iff, toFloat?_eq_some, ofFloat?_eq_some]
  constructor
  · rintro ⟨x, ⟨converts, rfl⟩, result⟩
    exact ⟨converts, result⟩
  · rintro ⟨converts, result⟩
    exact ⟨_, ⟨converts, rfl⟩, result⟩

end Foundation.Beam.Number
