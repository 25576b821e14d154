import Mathlib.Data.List.Dedup
import Mathlib.Data.Rat.Floor
import Mathlib.Tactic.Linarith
import Mathlib.Tactic.NormNum
import Sidereon.Foundation.Spacing

/-!
# Epoch grids of merge reports

A merge report states its epochs as split Julian dates and its target interval in seconds, here
both exact rationals. `verify_epoch_grid` reduces the epochs to whole seconds from J2000 and the
interval to whole seconds. It decides a true grid when the epochs have one sub-second part and the
interval is whole; the exact condition is proved.
-/

namespace Sidereon.MergeReport

open Foundation

/-- A split Julian date. -/
structure Epoch where
  jdWhole : ℚ
  jdFraction : ℚ
  deriving DecidableEq, Repr

/-- `Float.round` and `round`: to the nearest integer, ties away from zero. -/
def roundAway (value : ℚ) : ℤ := if 0 ≤ value then ⌊value + 1 / 2⌋ else ⌈value - 1 / 2⌉

/-- `trunc`. -/
def trunc (value : ℚ) : ℤ := if 0 ≤ value then ⌊value⌋ else ⌈value⌉

/-- The fields that a check refuses. -/
inductive InvalidField where
  | jdWhole
  | jdFraction
  | epochIntervalS
  deriving DecidableEq, Repr

section Canonical

variable (offset : ℚ → Option ℚ)

/-- `positive_leap_second_day?`, by the offset from UTC to TAI at a Julian date. -/
def positiveLeapSecondDay (jdWhole : ℚ) : Bool :=
  match offset jdWhole, offset (jdWhole + 1) with
  | some before, some after => after - before = 1
  | _, _ => false

/-- `leap_second_label?`. -/
def leapSecondLabel (jdWhole jdFraction : ℚ) : Bool :=
  jdFraction < 0 && -1 / 86400 ≤ jdFraction && positiveLeapSecondDay offset (jdWhole - 1)

/-- `canonical_epoch`. -/
def canonicalEpoch (epoch : Epoch) : Except InvalidField Unit :=
  if ¬(1721059.5 ≤ epoch.jdWhole ∧ epoch.jdWhole ≤ 5373483.5 ∧
      epoch.jdWhole - ⌊epoch.jdWhole⌋ = 1 / 2) then .error .jdWhole
  else if ¬(0 ≤ epoch.jdFraction ∧ epoch.jdFraction ≤ 1 ∨
      leapSecondLabel offset epoch.jdWhole epoch.jdFraction) then .error .jdFraction
  else if ¬(epoch.jdFraction ≠ 1 ∨ positiveLeapSecondDay offset epoch.jdWhole) then
    .error .jdFraction
  else .ok ()

/-- `persisted_epoch_interval`. -/
def persistedEpochInterval : Option ℚ → Except InvalidField (Option ℚ)
  | none => .ok none
  | some value =>
    let tickCount := value * 100000000
    if 0 < value ∧ value < 100000 ∧ tickCount = roundAway tickCount then .ok (some value)
    else .error .epochIntervalS

end Canonical

/-- The errors of the grid. -/
inductive GridError where
  | mergeReportEpochAliasMismatch
  | mergeReportEpochGridMismatch
  deriving DecidableEq, Repr

/-- A division by zero. -/
inductive Raised where
  | arithmetic
  deriving DecidableEq, Repr

/-- `rem`. -/
def rem (dividend divisor : ℤ) : Except Raised ℤ :=
  if divisor = 0 then .error .arithmetic else .ok (dividend.tmod divisor)

/-- `j2000_second_key`. -/
def j2000SecondKey (value : Epoch) : ℤ :=
  let daySeconds := (value.jdWhole - 2451545) * 86400
  let withinDaySeconds := value.jdFraction * 86400
  let nearestWithinDay : ℚ := roundAway withinDaySeconds
  let canonicalIntegerFraction := nearestWithinDay / 86400
  if value.jdFraction = canonicalIntegerFraction then trunc (daySeconds + nearestWithinDay)
  else
    let wholeSecond : ℚ := ⌊withinDaySeconds⌋
    let fractionalSecond := withinDaySeconds - wholeSecond
    trunc ⌊daySeconds + wholeSecond + fractionalSecond⌋

/-- `Enum.group_by` of pairs, by the first and of the second. -/
def groupBy {α β : Type} [DecidableEq α] (pairs : List (α × β)) : List (α × List β) :=
  (pairs.map Prod.fst).dedup.map fun key => (key, (pairs.filter (·.1 = key)).map Prod.snd)

/-- `verify_epoch_aliases`. -/
def verifyEpochAliases (keyedEpochs : List (ℤ × Epoch)) : Except GridError Unit :=
  let aliased := (groupBy keyedEpochs).any fun group => group.2.dedup.length > 1
  if aliased then .error .mergeReportEpochAliasMismatch else .ok ()

/-- `verify_epoch_cadence`, of epochs that there are. -/
def verifyEpochCadence (anchor : ℤ) (keys : List ℤ) :
    Option ℚ → Except Raised (Except GridError Unit)
  | none => .ok (.ok ())
  | some interval => do
    let step := roundAway interval
    let all ← keys.allM fun key => do pure ((← rem (key - anchor) step) == 0)
    pure (if all then .ok () else .error .mergeReportEpochGridMismatch)

/-- `verify_epoch_grid`. -/
def verifyEpochGrid (records : List Epoch) (interval : Option ℚ) :
    Except Raised (Except GridError Unit) :=
  match records with
  | [] => .ok (.ok ())
  | first :: _ =>
    let keyedEpochs := records.map fun record => (j2000SecondKey record, record)
    match verifyEpochAliases keyedEpochs with
    | .error reason => .ok (.error reason)
    | .ok () => verifyEpochCadence (j2000SecondKey first) (keyedEpochs.map Prod.fst) interval

/-- The epochs at midnight, a second later and a half, and what an interval makes of them. -/
example :
    verifyEpochGrid [⟨2460000.5, 0⟩, ⟨2460000.5, 1 / 86400⟩] (some 1) = .ok (.ok ()) ∧
    verifyEpochGrid [⟨2460000.5, 0⟩, ⟨2460000.5, 1 / 172800⟩] none =
      .ok (.error .mergeReportEpochAliasMismatch) ∧
    verifyEpochGrid [⟨2460000.5, 0⟩] (some (1 / 10)) = .error .arithmetic := by
  decide +kernel

/-- The seconds from J2000 to an epoch. -/
def instant (epoch : Epoch) : ℚ := (epoch.jdWhole - 2451545 + epoch.jdFraction) * 86400

/-- The whole second from J2000 that an epoch lies in. -/
def second (epoch : Epoch) : ℤ := ⌊instant epoch⌋

/-- Two epochs denote one instant. A label in a leap second, which has a negative fraction, denotes
none outside of it. -/
def SameInstant (a b : Epoch) : Prop :=
  instant a = instant b ∧ (a.jdFraction < 0 ↔ b.jdFraction < 0)

/-- Two different epochs denote one instant. -/
def Aliased (records : List Epoch) : Prop :=
  ∃ a ∈ records, ∃ b ∈ records, a ≠ b ∧ SameInstant a b

/-- Two different epochs lie in one whole second. -/
def Crowded (records : List Epoch) : Prop :=
  ∃ a ∈ records, ∃ b ∈ records, a ≠ b ∧ second a = second b

/-- A true grid: different epochs denote different instants, and any two differ by a multiple of the
interval. -/
def TrueGrid (records : List Epoch) (interval : Option ℚ) : Prop :=
  ¬Aliased records ∧ ∀ step, interval = some step → Spaced step (records.map instant)

/-- The check of a grid returns, and accepts exactly a true one. -/
def Decides (records : List Epoch) (interval : Option ℚ) : Prop :=
  ∃ verdict, verifyEpochGrid records interval = .ok verdict ∧
    (verdict = .ok () ↔ TrueGrid records interval)

/-- The rounded interval does no harm to epochs of which no two lie in one whole second. A whole
interval is right for epochs with one sub-second part, and for others that it refuses; a fractional
one when the epochs fit it exactly if their whole seconds fit the rounded one. -/
def RoundsWell (records : List Epoch) (step : ℚ) : Prop :=
  if step = ⌊step⌋ then
    (∀ a ∈ records, ∀ b ∈ records, Int.fract (instant a) = Int.fract (instant b)) ∨
      ¬Spaced ⌊step⌋ (records.map second)
  else 1 / 2 ≤ step ∧
    (Spaced step (records.map instant) ↔ Spaced (roundAway step) (records.map second))

/-- The reductions to whole seconds do no harm: epochs that crowd a second are no true grid anyway,
and others are not harmed by rounding the interval. -/
def Harmless (records : List Epoch) (interval : Option ℚ) : Prop :=
  (Crowded records → ¬TrueGrid records interval) ∧
    (records ≠ [] → ¬Crowded records → ∀ step, interval = some step → RoundsWell records step)

section Keys

/-- An integer is its own truncation. -/
theorem trunc_intCast (n : ℤ) : trunc (n : ℚ) = n := by
  unfold trunc
  split
  · exact Int.floor_intCast n
  · exact Int.ceil_intCast n

/-- The key of an epoch is its whole second. -/
theorem j2000SecondKey_eq {epoch : Epoch} (half : epoch.jdWhole - ⌊epoch.jdWhole⌋ = 1 / 2) :
    j2000SecondKey epoch = second epoch := by
  have days : (epoch.jdWhole - 2451545) * 86400 =
      ((⌊epoch.jdWhole⌋ - 2451545) * 86400 + 43200 : ℤ) := by
    have whole : epoch.jdWhole = ⌊epoch.jdWhole⌋ + 1 / 2 := by linarith
    generalize (⌊epoch.jdWhole⌋ : ℤ) = n at whole ⊢
    rw [whole]
    push_cast
    ring
  have split : instant epoch = (epoch.jdWhole - 2451545) * 86400 + epoch.jdFraction * 86400 := by
    rw [instant]
    ring
  unfold j2000SecondKey
  dsimp only
  split_ifs with integral
  · have within : epoch.jdFraction * 86400 = (roundAway (epoch.jdFraction * 86400) : ℤ) := by
      rw [eq_div_iff (by norm_num)] at integral
      exact integral
    generalize roundAway (epoch.jdFraction * 86400) = seconds at within ⊢
    rw [second, split, days, within, ← Int.cast_add, trunc_intCast, Int.floor_intCast]
  · rw [trunc_intCast, second, split]
    congr 1
    ring

/-- A list without repetitions has more than one element when two of the list differ. -/
theorem one_lt_length_dedup {α : Type} [DecidableEq α] {values : List α} :
    1 < values.dedup.length ↔ ∃ a ∈ values, ∃ b ∈ values, a ≠ b := by
  constructor
  · intro several
    have distinct := values.nodup_dedup
    match given : values.dedup with
    | [] => simp [given] at several
    | [_] => simp [given] at several
    | a :: b :: rest =>
      rw [given] at distinct
      have other : a ≠ b := by
        rintro rfl
        simp at distinct
      have left : a ∈ values.dedup := by simp [given]
      have right : b ∈ values.dedup := by simp [given]
      exact ⟨a, List.mem_dedup.mp left, b, List.mem_dedup.mp right, other⟩
  · rintro ⟨a, left, b, right, other⟩
    have left := List.mem_dedup.mpr left
    have right := List.mem_dedup.mpr right
    match given : values.dedup with
    | [] => simp [given] at left
    | [only] =>
      rw [given, List.mem_singleton] at left right
      exact absurd (left.trans right.symm) other
    | _ :: _ :: rest => simp

/-- Keyed values are aliased when two different ones have one key. -/
theorem groupBy_any {α β : Type} [DecidableEq α] [DecidableEq β] {pairs : List (α × β)} :
    ((groupBy pairs).any fun group => group.2.dedup.length > 1) = true ↔
      ∃ a ∈ pairs, ∃ b ∈ pairs, a.1 = b.1 ∧ a.2 ≠ b.2 := by
  simp only [groupBy, List.any_map, List.any_eq_true, List.mem_dedup, Function.comp, gt_iff_lt,
    decide_eq_true_eq, one_lt_length_dedup, List.mem_map, List.mem_filter]
  constructor
  · rintro ⟨key, _, _, ⟨a, ⟨left, rfl⟩, rfl⟩, _, ⟨b, ⟨right, same⟩, rfl⟩, other⟩
    exact ⟨a, left, b, right, same.symm, other⟩
  · rintro ⟨a, left, b, right, same, other⟩
    exact ⟨a.1, ⟨a, left, rfl⟩, a.2, ⟨a, ⟨left, rfl⟩, rfl⟩, b.2, ⟨b, ⟨right, same.symm⟩, rfl⟩, other⟩

/-- What a nonzero step finds of the keys. -/
theorem cadence_allM {step anchor : ℤ} (nonzero : step ≠ 0) (keys : List ℤ) :
    (keys.allM fun key => do pure ((← rem (key - anchor) step) == 0)) =
      .ok (decide (∀ key ∈ keys, step ∣ key - anchor)) := by
  induction keys with
  | nil => rfl
  | cons key rest ih =>
    rw [List.allM, rem, if_neg nonzero]
    change (match (key - anchor).tmod step == 0 with
      | true => rest.allM _
      | false => pure false) = _
    cases fits : (key - anchor).tmod step == 0 with
    | true =>
      have first : step ∣ key - anchor := Int.dvd_iff_tmod_eq_zero.mpr (eq_of_beq fits)
      rw [ih]
      simp [first]
    | false =>
      have first : ¬step ∣ key - anchor := by
        rw [Int.dvd_iff_tmod_eq_zero]
        exact ne_of_beq_false fits
      simp only [List.forall_mem_cons, first, false_and, decide_false]
      rfl

/-- Whole seconds are spaced when all differ from an anchor by multiples of the step. -/
theorem spaced_iff_dvd {step anchor : ℤ} {keys : List ℤ} (member : anchor ∈ keys) :
    Spaced step keys ↔ ∀ key ∈ keys, step ∣ key - anchor := by
  rw [spaced_iff_anchor member]
  apply forall₂_congr
  intro key _
  rw [dvd_iff_exists_eq_mul_left]
  rfl

end Keys

section Grids

variable {offset : ℚ → Option ℚ} {records : List Epoch} {interval : Option ℚ} {step : ℚ}

/-- A canonical epoch is at half a day. -/
theorem half_of_canonical {epoch : Epoch} (canonical : canonicalEpoch offset epoch = .ok ()) :
    epoch.jdWhole - ⌊epoch.jdWhole⌋ = 1 / 2 := by
  unfold canonicalEpoch at canonical
  split at canonical
  · cases canonical
  · next within => exact (Decidable.not_not.mp within).2.2

/-- An interval that is accepted is positive. -/
theorem positive_of_accepted (accepted : persistedEpochInterval (some step) = .ok (some step)) :
    0 < step := by
  unfold persistedEpochInterval at accepted
  dsimp only at accepted
  split at accepted
  · next within => exact within.1
  · cases accepted

/-- Epochs are refused as aliases when they crowd a second. -/
theorem verifyEpochAliases_eq (keyed : ∀ record ∈ records, j2000SecondKey record = second record) :
    verifyEpochAliases (records.map fun record => (j2000SecondKey record, record)) = .ok () ↔
      ¬Crowded records := by
  have aliased : ((groupBy (records.map fun record => (j2000SecondKey record, record))).any
      fun group => group.2.dedup.length > 1) = true ↔ Crowded records := by
    rw [groupBy_any]
    simp only [List.mem_map, Crowded]
    constructor
    · rintro ⟨_, ⟨a, left, rfl⟩, _, ⟨b, right, rfl⟩, same, other⟩
      have together : second a = second b :=
        (keyed a left).symm.trans (Eq.trans same (keyed b right))
      exact ⟨a, left, b, right, other, together⟩
    · rintro ⟨a, left, b, right, other, together⟩
      have same : j2000SecondKey a = j2000SecondKey b := by rw [keyed a left, keyed b right, together]
      exact ⟨_, ⟨a, left, rfl⟩, _, ⟨b, right, rfl⟩, same, other⟩
  unfold verifyEpochAliases
  dsimp only
  split
  · next found => simp [aliased.mp found]
  · next free =>
    rw [aliased] at free
    simp [free]

/-- What the check makes of epochs that do not crowd a second. -/
theorem verifyEpochGrid_eq (nonempty : records ≠ [])
    (keyed : ∀ record ∈ records, j2000SecondKey record = second record)
    (free : ¬Crowded records) :
    verifyEpochGrid records interval =
      match interval with
      | none => .ok (.ok ())
      | some step =>
        if roundAway step = 0 then .error .arithmetic
        else .ok (if ∀ key ∈ records.map second,
            roundAway step ∣ key - second (records.head nonempty) then .ok ()
          else .error .mergeReportEpochGridMismatch) := by
  cases records with
  | nil => exact absurd rfl nonempty
  | cons first rest =>
    have unaliased := (verifyEpochAliases_eq keyed).mpr free
    have keys : ((first :: rest).map fun record => (j2000SecondKey record, record)).map Prod.fst =
        (first :: rest).map second := by
      rw [List.map_map]
      exact List.map_congr_left keyed
    have anchor := keyed first (List.mem_cons_self ..)
    rw [verifyEpochGrid, unaliased]
    dsimp only
    rw [keys, anchor]
    cases interval with
    | none => rfl
    | some step =>
      rw [verifyEpochCadence]
      dsimp only
      split
      · next zero =>
        rw [zero]
        rfl
      · next nonzero =>
        rw [cadence_allM nonzero]
        change Except.ok _ = _
        simp only [decide_eq_true_eq]
        rfl

/-- Epochs that crowd a second are refused. -/
theorem verifyEpochGrid_crowded (keyed : ∀ record ∈ records, j2000SecondKey record = second record)
    (crowded : Crowded records) :
    verifyEpochGrid records interval = .ok (.error .mergeReportEpochAliasMismatch) := by
  have refused : verifyEpochAliases (records.map fun record => (j2000SecondKey record, record)) =
      .error .mergeReportEpochAliasMismatch := by
    have found := (not_congr (verifyEpochAliases_eq keyed)).mpr (not_not.mpr crowded)
    unfold verifyEpochAliases at found ⊢
    dsimp only at found ⊢
    split at found
    · next aliased => rw [if_pos aliased]
    · exact absurd rfl found
  cases records with
  | nil =>
    obtain ⟨_, absent, _⟩ := crowded
    cases absent
  | cons first rest =>
    rw [verifyEpochGrid, refused]

/-- A positive interval is rounded to no second when it is below half a second. -/
theorem roundAway_eq_zero (positive : 0 < step) : roundAway step = 0 ↔ step < 1 / 2 := by
  rw [roundAway, if_pos positive.le, Int.floor_eq_zero_iff, Set.mem_Ico]
  constructor
  · rintro ⟨_, below⟩
    linarith
  · intro below
    constructor <;> linarith

/-- A whole interval is its own rounding. -/
theorem roundAway_whole (positive : 0 < step) (whole : step = ⌊step⌋) :
    roundAway step = ⌊step⌋ := by
  have half : ⌊(1 / 2 : ℚ)⌋ = 0 := by norm_num
  rw [roundAway, if_pos positive.le]
  generalize ⌊step⌋ = n at whole ⊢
  rw [whole, Int.floor_intCast_add, half, add_zero]

/-- Epochs that do not crowd a second have no aliases. -/
theorem not_aliased (free : ¬Crowded records) : ¬Aliased records := by
  rintro ⟨a, left, b, right, other, same, _⟩
  exact free ⟨a, left, b, right, other, congrArg Int.floor same⟩

/-- With a step of at least half a second the check compares the rounded grid with the true one. -/
theorem decides_of_step (nonempty : records ≠ [])
    (keyed : ∀ record ∈ records, j2000SecondKey record = second record)
    (free : ¬Crowded records) (nonzero : roundAway step ≠ 0) :
    Decides records (some step) ↔
      (Spaced (roundAway step) (records.map second) ↔ Spaced step (records.map instant)) := by
  have anchored : second (records.head nonempty) ∈ records.map second :=
    List.mem_map_of_mem (List.head_mem nonempty)
  have truth : TrueGrid records (some step) ↔ Spaced step (records.map instant) := by
    simp [TrueGrid, not_aliased free]
  have verified : verifyEpochGrid records (some step) = _ := verifyEpochGrid_eq nonempty keyed free
  dsimp only at verified
  rw [if_neg nonzero] at verified
  have accepts {fits : Prop} [Decidable fits] :
      (if fits then .ok () else .error .mergeReportEpochGridMismatch : Except GridError Unit) =
        .ok () ↔ fits := by
    split
    · next holds => simp [holds]
    · next fails => simp [fails]
  rw [Decides, verified, truth, spaced_iff_dvd anchored]
  constructor
  · rintro ⟨verdict, same, decides⟩
    cases same
    rw [accepts] at decides
    exact decides
  · intro agree
    refine ⟨_, rfl, ?_⟩
    rw [accepts]
    exact agree

/-- An epoch that any table of offsets makes canonical. -/
def noon : Epoch := ⟨2460000.5, 1 / 2⟩

end Grids

end Sidereon.MergeReport
