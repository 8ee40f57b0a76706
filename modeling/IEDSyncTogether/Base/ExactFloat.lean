import Mathlib.Data.NNRat.Floor
import Mathlib.Data.Rat.Floor
import Mathlib.Tactic.Ring
import Mathlib.Tactic.FieldSimp
import Mathlib.Tactic.Positivity
import Mathlib.Tactic.Linarith

/-!
# Finite floats as exact numbers

A finite `float` is read as its exact value together with its sign bit, so that
the two zeros stay apart when they are printed. Arithmetic and comparison go
through `toRat`; there is no rounding error, no infinity and no NaN here.
-/

namespace IEDSyncTogether.Base

/-- The radix of hexadecimal floats, and the 2 of ties. -/
instance atLeastTwo_two : Nat.AtLeastTwo 2 := inferInstance

/-- The radix of decimals. -/
instance atLeastTwo_ten : Nat.AtLeastTwo 10 := inferInstance

/-- The nearest natural number, ties to even. -/
def roundHalfEven (value : ℚ≥0) : ℕ :=
  let low := ⌊value⌋₊
  if value < low + 1 / 2 then low
  else if low + 1 / 2 < value then low + 1
  else if low % 2 = 0 then low
  else low + 1

/-- The nearest natural number, ties away from zero. -/
def roundHalfAway (value : ℚ≥0) : ℕ := ⌊value + 1 / 2⌋₊

@[simp] theorem roundHalfEven_natCast (units : ℕ) : roundHalfEven units = units := by
  have below : (units : ℚ≥0) < units + 1 / 2 := lt_add_of_pos_right _ (by positivity)
  simp only [roundHalfEven, Nat.floor_natCast, below, if_true]

@[simp] theorem roundHalfAway_natCast (units : ℕ) : roundHalfAway units = units := by
  unfold roundHalfAway
  rw [Nat.floor_eq_iff (by positivity)]
  constructor
  · exact le_self_add
  · gcongr
    rw [div_lt_one] <;> norm_num

/-- A finite `float`: its sign bit and its exact magnitude. -/
structure ExactFloat where
  negative : Bool
  magnitude : ℚ≥0
deriving DecidableEq

namespace ExactFloat

instance : Inhabited ExactFloat := ⟨⟨false, 0⟩⟩

/-- The number a float stands for; both zeros stand for 0. -/
def toRat (value : ExactFloat) : ℚ :=
  if value.negative then -value.magnitude else value.magnitude

/-- The float of a rational constant. -/
def ofRat (value : ℚ) : ExactFloat := ⟨decide (value < 0), value.nnabs⟩

@[simp] theorem toRat_ofRat (value : ℚ) : (ofRat value).toRat = value := by
  by_cases below : value < 0
  · simp [toRat, ofRat, below, abs_of_neg below]
  · simp [toRat, ofRat, below, abs_of_nonneg (not_lt.mp below)]

/-- Round the magnitude to `places` decimal places; the sign bit stays. -/
def quantize (round : ℚ≥0 → ℕ) (places : ℕ) (value : ExactFloat) : ExactFloat :=
  { value with magnitude := round (value.magnitude * 10 ^ places) / 10 ^ places }

/-- The value is an exact decimal with `places` fractional digits. -/
def OnGrid (places : ℕ) (value : ExactFloat) : Prop :=
  ∃ units : ℕ, value.magnitude = units / 10 ^ places

/-- A value on the grid is a fixed point of any rounding that fixes the naturals. -/
theorem quantize_of_onGrid {round : ℚ≥0 → ℕ} (fixes : ∀ units : ℕ, round units = units)
    {places : ℕ} {value : ExactFloat} (exact : OnGrid places value) :
    value.quantize round places = value := by
  obtain ⟨units, shape⟩ := exact
  have scaled : value.magnitude * 10 ^ places = units := by
    rw [shape, div_mul_cancel₀]
    positivity
  simp only [quantize, scaled, fixes, ← shape]

/-- A coarser decimal grid lies inside every finer one. -/
theorem OnGrid.mono {coarse fine : ℕ} (finer : coarse ≤ fine) {value : ExactFloat}
    (exact : OnGrid coarse value) : OnGrid fine value := by
  obtain ⟨units, shape⟩ := exact
  refine ⟨units * 10 ^ (fine - coarse), ?_⟩
  have split : (10 : ℚ≥0) ^ fine = 10 ^ coarse * 10 ^ (fine - coarse) := by
    rw [← pow_add, Nat.add_sub_cancel' finer]
  rw [shape, split]
  push_cast
  field_simp

end ExactFloat

end IEDSyncTogether.Base
