import Sidereon.Foundation.Doubles
import Sidereon.Ntrip.Lifecycle

/-!
# The reconnect backoff

A reconnect waits for the initial delay times a power of the factor, up to the cap. The waits of a
run are what they are to be exactly while no product leaves the range of doubles and no capped wait
is shorter than an earlier one, which a cap that `seconds_to_ms` takes for milliseconds can make it.
-/

namespace Sidereon.Ntrip

open Foundation.Beam (Number double floatValue)
open Foundation.Doubles (range rounded)

/-- What `backoff_ms` relies on in `:math.pow`: the finite powers of a base of at least one are at
least one, and grow with the exponent. -/
structure Powers (pow : Float → Float → Float) : Prop where
  one_le {base i : Float} (finite : base.isFinite = true) (least : 1 ≤ floatValue base)
    (exponent : i.isFinite = true) (nonneg : 0 ≤ floatValue i)
    (result : (pow base i).isFinite = true) : 1 ≤ floatValue (pow base i)
  mono {base i j : Float} (finite : base.isFinite = true) (least : 1 ≤ floatValue base)
    (exponents : i.isFinite = true ∧ j.isFinite = true) (nonneg : 0 ≤ floatValue i)
    (ordered : floatValue i ≤ floatValue j)
    (results : (pow base i).isFinite = true ∧ (pow base j).isFinite = true) :
    floatValue (pow base i) ≤ floatValue (pow base j)

/-- The initial delay, the factor and the cap of the policy, or their defaults. -/
def Options.initialS (opts : Options) : Number :=
  (opts.reconnect.bind Policy.initialS).getD (double 1.0 finite_initial)

def Options.factor (opts : Options) : Number :=
  (opts.reconnect.bind Policy.factor).getD (double 2.0 finite_factor)

def Options.capS (opts : Options) : Number :=
  (opts.reconnect.bind Policy.capS).getD (double 60.0 finite_cap)

/-- A policy whose delays are to grow from a positive one to a positive cap. -/
structure Growing (opts : Options) : Prop where
  initial : 0 < opts.initialS.value
  factor : 1 ≤ opts.factor.value
  cap : 0 < opts.capS.value

/-- The power of the factor at an attempt. -/
def power (pow : Float → Float → Float) (opts : Options) (attempt : Nat) : Float :=
  pow opts.factor.toFloat (Number.int (attempt - 1)).toFloat

/-- The seconds before the cap: the initial delay times the power, as doubles. -/
def delayS (pow : Float → Float → Float) (opts : Options) (attempt : Nat) : ℚ :=
  rounded (floatValue opts.initialS.toFloat * floatValue (power pow opts attempt))

/-- A number of seconds in whole milliseconds, to the precision of doubles: at least one, halves
up. -/
def milliseconds (s : ℚ) : Int := max 1 ⌊rounded (s * 1000) + 1 / 2⌋

/-- More seconds are not fewer milliseconds. -/
theorem milliseconds_mono {s t : ℚ} (nonneg : 0 ≤ s) (ordered : s ≤ t) :
    milliseconds s ≤ milliseconds t := by
  have scaled : s * 1000 ≤ t * 1000 := by linarith
  have steps : rounded (s * 1000) ≤ rounded (t * 1000) :=
    Foundation.Rounding.rounded_mono (by linarith) scaled
  have floors : ⌊rounded (s * 1000) + 1 / 2⌋ ≤ ⌊rounded (t * 1000) + 1 / 2⌋ :=
    Int.floor_mono (by linarith)
  exact max_le_max_left 1 floors

/-- A whole number of seconds is a thousand times as many milliseconds, as far as doubles are
exact. -/
theorem milliseconds_natCast {c : Nat} (small : c * 1000 < 2 ^ 53) :
    milliseconds c = max 1 ((c : Int) * 1000) := by
  have kept : rounded ((c * 1000 : Nat) : ℚ) = (c * 1000 : Nat) :=
    Foundation.Rounding.rounded_natCast (by norm_num) small
  push_cast at kept
  have whole : ⌊((c : ℚ) * 1000) + 1 / 2⌋ = (c : Int) * 1000 := by
    rw [Int.floor_eq_iff]
    push_cast
    constructor <;> linarith
  rw [milliseconds, kept, whole]

/-- A whole number of seconds is not fewer milliseconds. -/
theorem natCast_le_milliseconds (c : Nat) : (c : Int) ≤ milliseconds c := by
  rcases Nat.eq_zero_or_pos c with rfl | positive
  · exact (Int.zero_le_ofNat 1).trans (le_max_left _ _)
  have number : 0 < ((c * 1000 : Nat) : ℚ) := by exact_mod_cast Nat.mul_pos positive (by decide)
  have log : Int.log 2 ((c * 1000 : Nat) : ℚ) = Nat.log 2 (c * 1000) := Int.log_natCast 2 _
  have loss : ((c * 1000 : Nat) : ℚ) / 2 < rounded ((c * 1000 : Nat) : ℚ) := by
    apply Foundation.Rounding.half_lt_rounded number
    rw [Foundation.Rounding.lastPlace, log]
    omega
  push_cast at loss number
  refine le_trans (Int.le_floor.mpr ?_) (le_max_right _ _)
  push_cast
  linarith

/-- The double that is a thousand. -/
theorem thousand :
    (Number.int 1000).toFloat.isFinite = true ∧ floatValue (Number.int 1000).toFloat = 1000 := by
  have within : ((1000 : Nat) : ℚ) < range := by
    have reach := Foundation.Doubles.two_zpow_lt_range.mpr (show (10 : ℤ) ≤ 1023 by norm_num)
    exact lt_trans (by norm_num) reach
  refine ⟨(Foundation.Doubles.isFinite_ofInt 1000).mpr within, ?_⟩
  have kept : rounded ((1000 : Nat) : ℚ) = (1000 : Nat) :=
    Foundation.Rounding.rounded_natCast (by norm_num) (by norm_num)
  have converted := Foundation.Doubles.floatValue_ofInt within
  rw [kept] at converted
  exact converted

/-- `seconds_to_ms` of a double. -/
theorem secondsToMs_float {x : Float} (finite : x.isFinite = true) (nonneg : 0 ≤ floatValue x) :
    secondsToMs (.float x finite) =
      if floatValue x * 1000 < range then some (milliseconds (floatValue x)) else none := by
  obtain ⟨finite', value⟩ := thousand
  have product : Number.mul? (.float x finite) (.int 1000) =
      Number.ofFloat? (x * (Number.int 1000).toFloat) := by
    have converted := Number.toFloat?_eq (.int 1000)
    rw [if_pos finite'] at converted
    simp only [Number.mul?, converted]
    rfl
  have reach := Foundation.Doubles.isFinite_mul finite finite' nonneg (by rw [value]; norm_num)
  have rounds := Foundation.Doubles.floatValue_mul finite finite' nonneg (by rw [value]; norm_num)
  rw [value] at reach rounds
  simp only [secondsToMs, product, Number.ofFloat?]
  by_cases within : floatValue x * 1000 < range
  · have above : 0 ≤ rounded (floatValue x * 1000) :=
      Foundation.Rounding.rounded_nonneg (mul_nonneg nonneg (by norm_num))
    rw [dif_pos (reach.mpr within), if_pos within]
    simp only [Option.map_some, Number.round, rounds within, if_pos above]
    rfl
  · rw [dif_neg (fun finite => within (reach.mp finite)), if_neg within]
    rfl

section Attempts

variable {pow : Float → Float → Float} {opts : Options}

/-- Every double an attempt computes is within the range: the factor, the exponent, the power, the
initial delay, their product and, unless an integer cap is taken, the wait in milliseconds. -/
structure InRange (pow : Float → Float → Float) (opts : Options) (attempt : Nat) : Prop where
  factor : opts.factor.value < range
  exponent : ((attempt - 1 : Nat) : ℚ) < range
  power : (power pow opts attempt).isFinite = true
  initial : opts.initialS.value < range
  delay : floatValue opts.initialS.toFloat * floatValue (Ntrip.power pow opts attempt) < range
  milliseconds : (∃ c : Int, opts.capS = .int c ∧ c ≤ delayS pow opts attempt) ∨
    min opts.capS.value (delayS pow opts attempt) * 1000 < range

/-- The wait `seconds_to_ms` makes of the cap. -/
def capMs : Number → Int
  | .int c => if c > 1000 then c else max 1 (c * 1000)
  | .float x _ => milliseconds (floatValue x)

/-- The wait of an attempt within the range. -/
def wait (pow : Float → Float → Float) (opts : Options) (attempt : Nat) : Int :=
  if opts.capS.value ≤ delayS pow opts attempt then capMs opts.capS
  else milliseconds (delayS pow opts attempt)

/-- The steps of `backoff_ms`. -/
theorem backoffMs_steps (attempt : Nat) :
    backoffMs pow opts attempt =
      opts.factor.toFloat?.bind fun base =>
        (Number.int (attempt - 1)).toFloat?.bind fun exponent =>
          (Number.ofFloat? (pow base exponent)).bind fun power =>
            (opts.initialS.mul? power).bind fun delay => secondsToMs (opts.capS.min delay) := rfl

/-- The exponent of an attempt as a double. -/
theorem exponent_value {attempt : Nat} (first : 1 ≤ attempt) :
    (Number.int (attempt - 1)).value = ((attempt - 1 : Nat) : ℚ) := by
  have whole : (attempt : Int) - 1 = ((attempt - 1 : Nat) : Int) := by omega
  rw [whole]
  rfl

/-- The wait of a cap and a delay that is a double. -/
theorem secondsToMs_min_eq_some {cap : Number} (positive : 0 < cap.value) {delay : Float}
    (finite : delay.isFinite = true) (nonneg : 0 ≤ floatValue delay) {ms : Int} :
    secondsToMs (cap.min (.float delay finite)) = some ms ↔
      ((∃ c : Int, cap = .int c ∧ c ≤ floatValue delay) ∨
        min cap.value (floatValue delay) * 1000 < range) ∧
      ms = if cap.value ≤ floatValue delay then capMs cap else milliseconds (floatValue delay) := by
  have delayValue : (Number.float delay finite).value = floatValue delay := rfl
  by_cases capped : cap.value ≤ floatValue delay
  · rw [Number.min, delayValue, if_pos capped, if_pos capped, min_eq_left capped]
    cases cap with
    | int c =>
      have taken : secondsToMs (.int c) = some (capMs (.int c)) := rfl
      rw [taken, Option.some_inj]
      exact ⟨fun same => ⟨Or.inl ⟨c, rfl, capped⟩, same.symm⟩, fun same => same.2.symm⟩
    | float x finite' =>
      rw [secondsToMs_float finite' positive.le]
      by_cases within : floatValue x * 1000 < range
      · rw [if_pos within, Option.some_inj]
        exact ⟨fun same => ⟨Or.inr within, same.symm⟩, fun same => same.2.symm⟩
      · rw [if_neg within]
        constructor
        · intro impossible
          cases impossible
        · rintro ⟨⟨c, impossible, _⟩ | reach, _⟩
          · cases impossible
          · exact absurd reach within
  · rw [Number.min, delayValue, if_neg capped, if_neg capped, min_eq_right (not_le.mp capped).le,
      secondsToMs_float finite nonneg]
    by_cases within : floatValue delay * 1000 < range
    · rw [if_pos within, Option.some_inj]
      exact ⟨fun same => ⟨Or.inr within, same.symm⟩, fun same => same.2.symm⟩
    · rw [if_neg within]
      constructor
      · intro impossible
        cases impossible
      · rintro ⟨⟨c, rfl, reached⟩ | reach, _⟩
        · exact absurd reached capped
        · exact absurd reach within

/-- The factor and the exponent as doubles. -/
theorem factor_double (growing : Growing opts) (within : opts.factor.value < range) :
    opts.factor.toFloat.isFinite = true ∧ 1 ≤ floatValue opts.factor.toFloat := by
  have nonneg : 0 ≤ opts.factor.value := zero_le_one.trans growing.factor
  refine ⟨(Number.isFinite_toFloat nonneg).mpr within, ?_⟩
  have one : rounded ((1 : Nat) : ℚ) = (1 : Nat) :=
    Foundation.Rounding.rounded_natCast (by norm_num) (by norm_num)
  have bound : rounded ((1 : Nat) : ℚ) ≤ rounded opts.factor.value :=
    Foundation.Rounding.rounded_mono zero_le_one (by exact_mod_cast growing.factor)
  rw [Number.floatValue_toFloat nonneg within]
  rw [one] at bound
  exact_mod_cast bound

theorem exponent_double {attempt : Nat} (first : 1 ≤ attempt)
    (within : ((attempt - 1 : Nat) : ℚ) < range) :
    (Number.int (attempt - 1)).toFloat.isFinite = true ∧
      floatValue (Number.int (attempt - 1)).toFloat = rounded ((attempt - 1 : Nat) : ℚ) := by
  have value := exponent_value first
  have nonneg : 0 ≤ (Number.int (attempt - 1)).value := by
    rw [value]
    exact Nat.cast_nonneg _
  rw [← value] at within ⊢
  exact ⟨(Number.isFinite_toFloat nonneg).mpr within, Number.floatValue_toFloat nonneg within⟩

/-- The power of an attempt is at least one. -/
theorem one_le_power (powers : Powers pow) (growing : Growing opts) {attempt : Nat}
    (first : 1 ≤ attempt) (factor : opts.factor.value < range)
    (exponent : ((attempt - 1 : Nat) : ℚ) < range)
    (finite : (power pow opts attempt).isFinite = true) :
    1 ≤ floatValue (power pow opts attempt) := by
  obtain ⟨baseFinite, base⟩ := factor_double growing factor
  obtain ⟨exponentFinite, value⟩ := exponent_double first exponent
  refine powers.one_le baseFinite base exponentFinite ?_ finite
  rw [value]
  exact Foundation.Rounding.rounded_nonneg (Nat.cast_nonneg _)

/-- The initial delay as a double. -/
theorem initial_double (growing : Growing opts) (within : opts.initialS.value < range) :
    opts.initialS.toFloat.isFinite = true ∧ 0 ≤ floatValue opts.initialS.toFloat := by
  have nonneg := growing.initial.le
  refine ⟨(Number.isFinite_toFloat nonneg).mpr within, ?_⟩
  rw [Number.floatValue_toFloat nonneg within]
  exact Foundation.Rounding.rounded_nonneg nonneg

/-- The delay as a double. -/
theorem delay_double {attempt : Nat} (growing : Growing opts)
    (initial : opts.initialS.value < range) (finite : (power pow opts attempt).isFinite = true)
    (atLeast : 1 ≤ floatValue (power pow opts attempt)) :
    ((opts.initialS.toFloat * power pow opts attempt).isFinite = true ↔
        floatValue opts.initialS.toFloat * floatValue (power pow opts attempt) < range) ∧
      ((opts.initialS.toFloat * power pow opts attempt).isFinite = true →
        floatValue (opts.initialS.toFloat * power pow opts attempt) = delayS pow opts attempt) ∧
      0 ≤ delayS pow opts attempt := by
  obtain ⟨initialFinite, nonneg⟩ := initial_double growing initial
  have nonneg' : 0 ≤ floatValue (power pow opts attempt) := zero_le_one.trans atLeast
  have reach := Foundation.Doubles.isFinite_mul initialFinite finite nonneg nonneg'
  have rounds := Foundation.Doubles.floatValue_mul initialFinite finite nonneg nonneg'
  exact ⟨reach, fun within => rounds (reach.mp within),
    Foundation.Rounding.rounded_nonneg (mul_nonneg nonneg nonneg')⟩

/-- `backoff_ms` returns the wait of an attempt exactly when every double is within the range. -/
theorem backoffMs_eq_some (powers : Powers pow) (growing : Growing opts) {attempt : Nat}
    (first : 1 ≤ attempt) {ms : Int} :
    backoffMs pow opts attempt = some ms ↔
      InRange pow opts attempt ∧ ms = wait pow opts attempt := by
  have exponentValue := exponent_value first
  have exponentNonneg : 0 ≤ (Number.int (attempt - 1)).value := by
    rw [exponentValue]
    exact Nat.cast_nonneg _
  rw [backoffMs_steps]
  simp only [Option.bind_eq_some_iff, Number.toFloat?_eq_some, Number.ofFloat?_eq_some]
  constructor
  · rintro ⟨base, ⟨baseFinite, rfl⟩, exponent, ⟨exponentFinite, rfl⟩, number,
      ⟨powerFinite, rfl⟩, delay, product, waited⟩
    obtain ⟨initialFinite, delayFinite, rfl⟩ := (Number.mul?_float_eq_some powerFinite).mp product
    have factor := (Number.isFinite_toFloat (zero_le_one.trans growing.factor)).mp baseFinite
    have exponent := (Number.isFinite_toFloat exponentNonneg).mp exponentFinite
    rw [exponentValue] at exponent
    have initial := (Number.isFinite_toFloat growing.initial.le).mp initialFinite
    have atLeast := one_le_power powers growing first factor exponent powerFinite
    obtain ⟨reach, value, nonneg⟩ := delay_double growing initial powerFinite atLeast
    have value : floatValue (opts.initialS.toFloat *
        pow opts.factor.toFloat (Number.int (attempt - 1)).toFloat) = delayS pow opts attempt :=
      value delayFinite
    have parts := (secondsToMs_min_eq_some growing.cap delayFinite (value ▸ nonneg)).mp waited
    rw [value] at parts
    exact ⟨⟨factor, exponent, powerFinite, initial, reach.mp delayFinite, parts.1⟩, parts.2⟩
  · rintro ⟨within, rfl⟩
    have atLeast := one_le_power powers growing first within.factor within.exponent within.power
    obtain ⟨reach, value, nonneg⟩ := delay_double growing within.initial within.power atLeast
    have delayFinite := reach.mpr within.delay
    have value := value delayFinite
    refine ⟨_, ⟨(factor_double growing within.factor).1, rfl⟩, _,
      ⟨(exponent_double first within.exponent).1, rfl⟩, _, ⟨within.power, rfl⟩, _,
      (Number.mul?_float_eq_some within.power).mpr
        ⟨(initial_double growing within.initial).1, delayFinite, rfl⟩, ?_⟩
    refine (secondsToMs_min_eq_some growing.cap delayFinite (value ▸ nonneg)).mpr ?_
    rw [value]
    exact ⟨within.milliseconds, rfl⟩

/-- The delays before the cap do not shrink. -/
theorem delayS_mono (powers : Powers pow) (growing : Growing opts) {i j : Nat} (first : 1 ≤ i)
    (ordered : i ≤ j) (within : InRange pow opts i) (within' : InRange pow opts j) :
    delayS pow opts i ≤ delayS pow opts j := by
  obtain ⟨baseFinite, base⟩ := factor_double growing within.factor
  obtain ⟨finite, value⟩ := exponent_double first within.exponent
  obtain ⟨finite', value'⟩ := exponent_double (first.trans ordered) within'.exponent
  have exponents : floatValue (Number.int (i - 1)).toFloat ≤
      floatValue (Number.int (j - 1)).toFloat := by
    rw [value, value']
    exact Foundation.Rounding.rounded_mono (Nat.cast_nonneg _)
      (Nat.cast_le.mpr (Nat.sub_le_sub_right ordered 1))
  have nonneg : 0 ≤ floatValue (Number.int (i - 1)).toFloat := by
    rw [value]
    exact Foundation.Rounding.rounded_nonneg (Nat.cast_nonneg _)
  have grows := powers.mono baseFinite base ⟨finite, finite'⟩ nonneg exponents
    ⟨within.power, within'.power⟩
  have initial := (initial_double growing within.initial).2
  have positive := one_le_power powers growing first within.factor within.exponent within.power
  exact Foundation.Rounding.rounded_mono (mul_nonneg initial (zero_le_one.trans positive))
    (mul_le_mul_of_nonneg_left grows initial)

/-- An integer cap of at most a thousand and a cap that is a double are taken as seconds. -/
theorem capMs_eq {cap : Number} (positive : 0 < cap.value) (small : ∀ c, cap = .int c → c ≤ 1000) :
    capMs cap = milliseconds cap.value := by
  cases cap with
  | float x finite => rfl
  | int c =>
    have bound := small c rfl
    obtain ⟨k, rfl⟩ := Int.eq_ofNat_of_zero_le (Int.cast_pos.mp positive).le
    have exact_ := milliseconds_natCast (c := k) (by omega)
    change (if (k : Int) > 1000 then (k : Int) else max 1 (k * 1000)) = milliseconds ((k : Int) : ℚ)
    rw [if_neg (by omega), Int.cast_natCast, exact_]

/-- The wait of a cap is positive and not more than the cap. -/
theorem capMs_bounds {cap : Number} (positive : 0 < cap.value) :
    0 < capMs cap ∧ capMs cap ≤ milliseconds cap.value := by
  by_cases small : ∀ c, cap = .int c → c ≤ 1000
  · rw [capMs_eq positive small]
    exact ⟨lt_of_lt_of_le Int.zero_lt_one (le_max_left _ _), le_rfl⟩
  · simp only [not_forall, not_le] at small
    obtain ⟨c, rfl, large⟩ := small
    obtain ⟨k, rfl⟩ := Int.eq_ofNat_of_zero_le (show 0 ≤ c by omega)
    have taken : capMs (.int k) = k := if_pos large
    rw [taken]
    exact ⟨by omega, natCast_le_milliseconds k⟩

theorem wait_bounds (growing : Growing opts) {attempt : Nat}
    (nonneg : 0 ≤ delayS pow opts attempt) :
    0 < wait pow opts attempt ∧ wait pow opts attempt ≤ milliseconds opts.capS.value := by
  unfold wait
  by_cases capped : opts.capS.value ≤ delayS pow opts attempt
  · rw [if_pos capped]
    exact capMs_bounds growing.cap
  · rw [if_neg capped]
    exact ⟨lt_of_lt_of_le Int.zero_lt_one (le_max_left _ _),
      milliseconds_mono nonneg (not_le.mp capped).le⟩

theorem delayS_nonneg (powers : Powers pow) (growing : Growing opts) {attempt : Nat}
    (first : 1 ≤ attempt) (within : InRange pow opts attempt) : 0 ≤ delayS pow opts attempt :=
  (delay_double growing within.initial within.power
    (one_le_power powers growing first within.factor within.exponent within.power)).2.2

/-- What an attempt is to wait: some milliseconds, not more than the cap, the delay itself while it is
below the cap, and not less than an earlier attempt. -/
def Promised (pow : Float → Float → Float) (opts : Options) (attempt : Nat) : Prop :=
  ∃ ms, backoffMs pow opts attempt = some ms ∧ 0 < ms ∧ ms ≤ milliseconds opts.capS.value ∧
    (delayS pow opts attempt < opts.capS.value → ms = milliseconds (delayS pow opts attempt)) ∧
    ∀ earlier, 1 ≤ earlier → earlier ≤ attempt → ∀ ms', backoffMs pow opts earlier = some ms' →
      ms' ≤ ms

/-- A cap that `seconds_to_ms` takes for milliseconds is not met by an attempt after one that waits
longer. -/
def CapKept (pow : Float → Float → Float) (opts : Options) (attempts : Nat) : Prop :=
  ∀ c : Int, opts.capS = .int c → 1000 < c → ∀ i j, 1 ≤ i → i ≤ j → j ≤ attempts →
    delayS pow opts i < c → c ≤ delayS pow opts j → milliseconds (delayS pow opts i) ≤ c

/-- The waits within the range do not shrink while the cap is kept: an attempt after a capped one is
capped, and an attempt below the cap waits no longer than the cap. -/
theorem wait_mono (powers : Powers pow) (growing : Growing opts) {attempts i j : Nat}
    (kept : CapKept pow opts attempts) (first : 1 ≤ i) (ordered : i ≤ j) (last : j ≤ attempts)
    (within : InRange pow opts i) (within' : InRange pow opts j) :
    wait pow opts i ≤ wait pow opts j := by
  have delays := delayS_mono powers growing first ordered within within'
  have nonneg := delayS_nonneg powers growing first within
  unfold wait
  by_cases capped : opts.capS.value ≤ delayS pow opts i
  · rw [if_pos capped, if_pos (capped.trans delays)]
  · rw [if_neg capped]
    rw [not_le] at capped
    by_cases capped' : opts.capS.value ≤ delayS pow opts j
    · rw [if_pos capped']
      by_cases small : ∀ c, opts.capS = .int c → c ≤ 1000
      · rw [capMs_eq growing.cap small]
        exact milliseconds_mono nonneg capped.le
      · simp only [not_forall, not_le] at small
        obtain ⟨c, cap, large⟩ := small
        rw [cap] at capped capped' ⊢
        have taken : capMs (.int c) = c := if_pos large
        rw [taken]
        exact kept c cap large i j first ordered last capped capped'
    · rw [if_neg capped']
      exact milliseconds_mono nonneg delays

end Attempts

/-- Of every growing policy and any number of attempts a run has made, each attempt waits as promised
exactly when every double the attempts compute is within the range and the cap is kept. -/
theorem backoff_promised (pow : Float → Float → Float) (powers : Powers pow) (opts : Options)
    (growing : Growing opts) (attempts : Nat) :
    (∀ attempt, 1 ≤ attempt → attempt ≤ attempts → Promised pow opts attempt) ↔
      (∀ attempt, 1 ≤ attempt → attempt ≤ attempts → InRange pow opts attempt) ∧
        CapKept pow opts attempts := by
  constructor
  · intro promised
    have within : ∀ attempt, 1 ≤ attempt → attempt ≤ attempts → InRange pow opts attempt := by
      intro attempt first last
      obtain ⟨ms, returned, _⟩ := promised attempt first last
      exact ((backoffMs_eq_some powers growing first).mp returned).1
    refine ⟨within, ?_⟩
    intro c cap large i j first ordered last below reached
    obtain ⟨ms, returned, _, _, _, monotone⟩ := promised j (first.trans ordered) last
    have earlier := (backoffMs_eq_some powers growing first).mpr
      ⟨within i first (ordered.trans last), rfl⟩
    have step := monotone i first ordered _ earlier
    obtain ⟨_, capped⟩ := (backoffMs_eq_some powers growing (first.trans ordered)).mp returned
    have value : opts.capS.value = c := congrArg Number.value cap
    have waits : wait pow opts i = milliseconds (delayS pow opts i) :=
      if_neg (by rw [value]; exact not_le.mpr below)
    have waits' : wait pow opts j = c := by
      have taken : capMs (.int c) = c := if_pos large
      rw [wait, if_pos (by rw [value]; exact reached), cap, taken]
    rw [waits, capped, waits'] at step
    exact step
  · rintro ⟨within, kept⟩ attempt first last
    have inRange := within attempt first last
    obtain ⟨positive, bounded⟩ := wait_bounds growing (delayS_nonneg powers growing first inRange)
    refine ⟨wait pow opts attempt, (backoffMs_eq_some powers growing first).mpr ⟨inRange, rfl⟩,
      positive, bounded, ?_, ?_⟩
    · intro below
      exact if_neg (not_le.mpr below)
    · intro earlier first' ordered ms' returned
      obtain ⟨inRange', rfl⟩ := (backoffMs_eq_some powers growing first').mp returned
      exact wait_mono powers growing kept first' ordered last inRange' inRange

/-- A power by repeated multiplication. -/
def product (base : Float) (count : Nat) : Float :=
  (List.replicate count base).foldl (· * ·) 1.0

theorem product_succ (base : Float) (count : Nat) :
    product base (count + 1) = product base count * base := by
  rw [product, List.replicate_succ', List.foldl_append]
  rfl

/-- One more factor of at least one does not shrink a product, and the product was finite before. -/
theorem product_step {base : Float} (finite : base.isFinite = true) (least : 1 ≤ floatValue base)
    {count : Nat} (atLeast : (product base count).isFinite = true →
      1 ≤ floatValue (product base count))
    (result : (product base (count + 1)).isFinite = true) :
    (product base count).isFinite = true ∧
      floatValue (product base count) ≤ floatValue (product base (count + 1)) := by
  rw [product_succ] at result ⊢
  have before := Foundation.Doubles.isFinite_left_of_mul result
  have one := atLeast before
  have nonneg : 0 ≤ floatValue (product base count) := zero_le_one.trans one
  have nonneg' : 0 ≤ floatValue base := zero_le_one.trans least
  have within := (Foundation.Doubles.isFinite_mul before finite nonneg nonneg').mp result
  rw [Foundation.Doubles.floatValue_mul before finite nonneg nonneg' within]
  have grows : floatValue (product base count) ≤
      floatValue (product base count) * floatValue base := le_mul_of_one_le_right nonneg least
  have steps : rounded (floatValue (product base count)) ≤
      rounded (floatValue (product base count) * floatValue base) :=
    Foundation.Rounding.rounded_mono nonneg grows
  rw [Foundation.Doubles.rounded_floatValue before nonneg] at steps
  exact ⟨before, steps⟩

theorem one_le_product {base : Float} (finite : base.isFinite = true)
    (least : 1 ≤ floatValue base) (count : Nat) (result : (product base count).isFinite = true) :
    1 ≤ floatValue (product base count) := by
  induction count with
  | zero =>
    have one : 1 ≤ floatValue (1.0 : Float) := by decide +kernel
    exact one
  | succ count ih =>
    obtain ⟨before, grows⟩ := product_step finite least ih result
    exact (ih before).trans grows

theorem product_mono {base : Float} (finite : base.isFinite = true) (least : 1 ≤ floatValue base)
    {i j : Nat} (ordered : i ≤ j) (result : (product base j).isFinite = true) :
    floatValue (product base i) ≤ floatValue (product base j) := by
  induction ordered with
  | refl => exact le_rfl
  | step _ ih =>
    obtain ⟨before, grows⟩ := product_step finite least (one_le_product finite least _) result
    exact (ih before).trans grows

/-- Powers by repeated multiplication are powers. -/
theorem powers_poweringCore : Powers poweringCore.pow where
  one_le finite least _ _ result := one_le_product finite least _ result
  mono finite least _ _ ordered results :=
    product_mono finite least (Int.toNat_le_toNat (Int.floor_mono ordered)) results.2

/-- The first waits of the default policy are as promised. -/
theorem backoff_promised_default :
    Promised poweringCore.pow (casterOptions none) 1 ∧
      Promised poweringCore.pow (casterOptions none) 2 ∧
      Promised poweringCore.pow (casterOptions none) 3 := by
  have promised := (backoff_promised _ powers_poweringCore (casterOptions none)
    ⟨by decide +kernel, by decide +kernel, by decide +kernel⟩ 3).mpr ⟨?_, ?_⟩
  · exact ⟨promised 1 (by decide) (by decide), promised 2 (by decide) (by decide),
      promised 3 (by decide) (by decide)⟩
  · intro attempt first last
    obtain rfl | rfl | rfl : attempt = 1 ∨ attempt = 2 ∨ attempt = 3 := by omega
    all_goals exact ⟨by decide +kernel, by decide +kernel, by decide +kernel, by decide +kernel,
      by decide +kernel, Or.inr (by decide +kernel)⟩
  · intro c cap
    cases cap

/-- Doubling reaches each power of two within the range. -/
theorem product_two (count : Nat) (within : count ≤ 1023) :
    (product 2.0 count).isFinite = true ∧ floatValue (product 2.0 count) = 2 ^ (count : ℤ) := by
  have two : (2.0 : Float).isFinite = true ∧ floatValue 2.0 = 2 := by decide +kernel
  induction count with
  | zero =>
    have one : (1.0 : Float).isFinite = true ∧ floatValue 1.0 = 2 ^ (0 : ℤ) := by decide +kernel
    exact one
  | succ count ih =>
    obtain ⟨finite, value⟩ := ih (by omega)
    have double : floatValue (product 2.0 count) * floatValue 2.0 = 2 ^ ((count + 1 : Nat) : ℤ) := by
      rw [value, two.2, Nat.cast_succ, zpow_add₀ (by norm_num), zpow_one]
    have nonneg : 0 ≤ floatValue (product 2.0 count) := by
      rw [value]
      exact (Foundation.Rounding.two_zpow_pos _).le
    have nonneg' : 0 ≤ floatValue 2.0 := by rw [two.2]; norm_num
    have reach : floatValue (product 2.0 count) * floatValue 2.0 < range := by
      rw [double]
      exact Foundation.Doubles.two_zpow_lt_range.mpr (by omega)
    rw [product_succ, Foundation.Doubles.floatValue_mul finite two.1 nonneg nonneg' reach, double]
    exact ⟨(Foundation.Doubles.isFinite_mul finite two.1 nonneg nonneg').mpr reach,
      Foundation.Rounding.rounded_two_zpow (by omega)⟩

/-- The default policy, after a thousand reconnects: the power of the factor leaves the range, and the
attempt that was to wait for the cap raises. -/
theorem backoff_promised_fails :
    ¬ ∀ opts, Growing opts → ∀ attempt, 1 ≤ attempt → Promised poweringCore.pow opts attempt := by
  intro promised
  have growing : Growing (casterOptions none) :=
    ⟨by decide +kernel, by decide +kernel, by decide +kernel⟩
  obtain ⟨ms, returned, _⟩ := promised _ growing 1025 (by decide)
  have within := ((backoffMs_eq_some powers_poweringCore growing (by decide)).mp returned).1.power
  have count : ⌊floatValue (Number.int ((1025 : Nat) - 1)).toFloat⌋.toNat = 1024 := by decide +kernel
  have power : power poweringCore.pow (casterOptions none) 1025 = product 2.0 1024 := by
    rw [← count]
    rfl
  have split : product 2.0 1024 = product 2.0 1023 * 2.0 := product_succ 2.0 1023
  rw [power, split] at within
  obtain ⟨finite, value⟩ := product_two 1023 le_rfl
  have two : (2.0 : Float).isFinite = true ∧ floatValue 2.0 = 2 := by decide +kernel
  have nonneg : 0 ≤ floatValue (product 2.0 1023) := by
    rw [value]
    exact (Foundation.Rounding.two_zpow_pos _).le
  have reach := (Foundation.Doubles.isFinite_mul finite two.1 nonneg (by rw [two.2]; norm_num)).mp
    within
  have double : (2 : ℚ) ^ ((1024 : Nat) : ℤ) = 2 * 2 ^ ((1023 : Nat) : ℤ) :=
    Foundation.Rounding.two_zpow_double _
  rw [value, two.2, mul_comm, ← double] at reach
  exact absurd (Foundation.Doubles.two_zpow_lt_range.mp reach) (by decide)

end Sidereon.Ntrip
