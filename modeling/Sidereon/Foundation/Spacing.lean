import Mathlib.Algebra.Order.Floor.Ring
import Mathlib.Tactic.Ring

/-!
# Points spaced by a step

Points are spaced by a step when every two of them differ by a multiple of it. One of them as an
anchor decides it, and in an ordered field points that are spaced by a whole step have one
fractional part and floors that are spaced by the step.
-/

namespace Foundation

section Rings

variable {R : Type} [Ring R]

/-- Points of which every two differ by a multiple of a step. -/
def Spaced (step : R) (points : List R) : Prop :=
  ∀ a ∈ points, ∀ b ∈ points, ∃ n : ℤ, a - b = n * step

/-- Points are spaced when all differ from one of them by multiples of the step. -/
theorem spaced_iff_anchor {step anchor : R} {points : List R} (member : anchor ∈ points) :
    Spaced step points ↔ ∀ a ∈ points, ∃ n : ℤ, a - anchor = n * step := by
  constructor
  · intro spaced a inside
    exact spaced a inside anchor member
  · intro anchored a left b right
    obtain ⟨n, first⟩ := anchored a left
    obtain ⟨m, second⟩ := anchored b right
    have difference : a - b = (a - anchor) - (b - anchor) := by
      rw [sub_sub_sub_cancel_right]
    refine ⟨n - m, ?_⟩
    rw [difference, first, second, Int.cast_sub, sub_mul]

end Rings

section Fields

variable {K : Type} [Field K] [LinearOrder K] [IsStrictOrderedRing K] [FloorRing K]

/-- Points are spaced by a whole step when they have one fractional part and their floors are spaced
by the step. -/
theorem spaced_iff_floor {step : ℤ} {points : List K} :
    Spaced (step : K) points ↔
      (∀ a ∈ points, ∀ b ∈ points, Int.fract a = Int.fract b) ∧
        Spaced step (points.map Int.floor) := by
  constructor
  · intro spaced
    have apart : ∀ a ∈ points, ∀ b ∈ points, ∃ n : ℤ, a = b + ((n * step : ℤ) : K) := by
      intro a left b right
      obtain ⟨n, same⟩ := spaced a left b right
      refine ⟨n, ?_⟩
      rw [Int.cast_mul, ← same, add_sub_cancel]
    constructor
    · intro a left b right
      obtain ⟨n, rfl⟩ := apart a left b right
      exact Int.fract_add_intCast b _
    · intro whole among whole' among'
      obtain ⟨a, left, rfl⟩ := List.mem_map.mp among
      obtain ⟨b, right, rfl⟩ := List.mem_map.mp among'
      obtain ⟨n, rfl⟩ := apart a left b right
      refine ⟨n, ?_⟩
      rw [Int.floor_add_intCast, add_sub_cancel_left, Int.cast_id]
  · rintro ⟨one, spaced⟩ a left b right
    obtain ⟨n, same⟩ := spaced ⌊a⌋ (List.mem_map_of_mem left) ⌊b⌋ (List.mem_map_of_mem right)
    refine ⟨n, ?_⟩
    have parts : a - b = (⌊a⌋ - ⌊b⌋ : ℤ) + (Int.fract a - Int.fract b) := by
      rw [Int.fract, Int.fract, Int.cast_sub]
      ring
    rw [parts, one a left b right, sub_self, add_zero, same]
    push_cast
    rfl

end Fields

end Foundation
