import Mathlib.AlgebraicGeometry.EllipticCurve.Affine.Point
import Router1.Montgomery.Ladder

/-!
# Points of a Montgomery curve

The ladder on the curve `y² = x³ + A x² + x` over a field: doubling and differential addition on first coordinates are
those of the group of points, also where a point or a sum is the one at infinity, and the ladder multiplies a point by
its scalar.
-/

namespace Montgomery

open WeierstrassCurve.Affine

variable {F : Type*} [Field F]

/-- The curve `y² = x³ + A x² + x`. -/
def curve (A : F) : WeierstrassCurve.Affine F := { a₁ := 0, a₂ := A, a₃ := 0, a₄ := 1, a₆ := 0 }

variable {A a24 : F} {P Q : (curve A).Point} {S T : XZ F}

/-- The fraction is the first coordinate of the point, and has no denominator exactly at infinity. -/
def Represents : (curve A).Point → XZ F → Prop
  | .zero, S => S.z = 0 ∧ S.x ≠ 0
  | .some x _ _, S => S.z ≠ 0 ∧ S.x = x * S.z

/-- The first coordinate, and 0 at infinity. -/
def affineX : (curve A).Point → F
  | .zero => 0
  | .some x _ _ => x

theorem equation_of_nonsingular {x y : F} (h : (curve A).Nonsingular x y) : y ^ 2 = x ^ 3 + A * x ^ 2 + x := by
  have hequation := (equation_iff _ _).mp h.1
  simpa [curve] using hequation

theorem negY_curve (x y : F) : (curve A).negY x y = -y := by simp [negY, curve]

theorem derivative_ne_zero {x : F} (h : (curve A).Nonsingular x 0) : 3 * x ^ 2 + 2 * A * x + 1 ≠ 0 := by
  intro hzero
  have hnonsingular := ((nonsingular_iff _ _).mp h).2
  simp only [curve, mul_zero, zero_mul, ne_eq, neg_zero, sub_zero, not_true_eq_false, or_false] at hnonsingular
  exact hnonsingular hzero.symm

/-- The first coordinates of the sum and of the difference of two points. -/
theorem sum_mul_difference {x₁ y₁ x₂ y₂ x u : F} (hne : x₁ ≠ x₂) (h₁ : y₁ ^ 2 = x₁ ^ 3 + A * x₁ ^ 2 + x₁)
    (h₂ : y₂ ^ 2 = x₂ ^ 3 + A * x₂ ^ 2 + x₂)
    (hx : (x₁ - x₂) ^ 2 * x = (y₁ - y₂) ^ 2 - (A + x₁ + x₂) * (x₁ - x₂) ^ 2)
    (hu : (x₂ - x₁) ^ 2 * u = (y₂ - -y₁) ^ 2 - (A + x₂ + x₁) * (x₂ - x₁) ^ 2) :
    (x₁ * x₂ - 1) ^ 2 = x * ((x₂ - x₁) ^ 2 * u) := by
  apply mul_left_cancel₀ (pow_ne_zero 2 (sub_ne_zero.mpr hne))
  rw [← mul_assoc, hx, hu]
  set f₁ := x₁ ^ 3 + A * x₁ ^ 2 + x₁ with hf₁
  set f₂ := x₂ ^ 3 + A * x₂ ^ 2 + x₂ with hf₂
  have hpolynomial : (x₁ - x₂) ^ 2 * (x₁ * x₂ - 1) ^ 2 = (f₁ - f₂) ^ 2 - 2 * (A + x₁ + x₂) * (x₁ - x₂) ^ 2 * (f₁ + f₂) +
      (A + x₁ + x₂) ^ 2 * (x₁ - x₂) ^ 4 := by
    rw [hf₁, hf₂]
    ring
  linear_combination hpolynomial - (y₁ ^ 2 - y₂ ^ 2 + f₁ - f₂ - 2 * (A + x₁ + x₂) * (x₁ - x₂) ^ 2) * h₁ +
    (y₁ ^ 2 - y₂ ^ 2 + f₁ - f₂ + 2 * (A + x₁ + x₂) * (x₁ - x₂) ^ 2) * h₂

theorem diffAdd_affine {x₁ x₂ : F} (u : F) (hS : S.x = x₁ * S.z) (hT : T.x = x₂ * T.z) :
    diffAdd u S T = { x := (2 * S.z * T.z) ^ 2 * (x₁ * x₂ - 1) ^ 2, z := (2 * S.z * T.z) ^ 2 * ((x₂ - x₁) ^ 2 * u) } := by
  simp only [diffAdd, hS, hT, XZ.mk.injEq]
  constructor <;> ring

/-- The fraction of a point, with 0 for one without a denominator. -/
theorem affineX_eq_div (h : Represents P S) : affineX P = S.x / S.z := by
  cases P with
  | zero => rw [h.1, div_zero]; rfl
  | some x y hP => rw [h.2, mul_div_cancel_right₀ _ h.1]; rfl

variable [DecidableEq F]

theorem double_some {x y : F} (h2 : (2 : F) ≠ 0) (hy : y ≠ 0) (h : (curve A).Nonsingular x y) :
    ∃ x' y' h', (Point.some x y h + Point.some x y h : (curve A).Point) = Point.some x' y' h' ∧
      4 * y ^ 2 * x' = (x ^ 2 - 1) ^ 2 := by
  have hequation := equation_of_nonsingular h
  have hne : y ≠ (curve A).negY x y := by
    rw [negY_curve]
    intro heq
    have hsum : 2 * y = 0 := by linear_combination heq
    exact (mul_ne_zero h2 hy) hsum
  have hslope : 2 * y * (curve A).slope x x y y = 3 * x ^ 2 + 2 * A * x + 1 := by
    rw [slope_of_Y_ne rfl hne, negY_curve, show y - -y = 2 * y by ring, mul_div_cancel₀ _ (mul_ne_zero h2 hy)]
    simp [curve]
  refine ⟨_, _, _, Point.add_self_of_Y_ne hne, ?_⟩
  have hx : (curve A).addX x x ((curve A).slope x x y y) = (curve A).slope x x y y ^ 2 - A - 2 * x := by
    simp only [addX, curve]
    ring
  rw [hx]
  linear_combination (2 * y * (curve A).slope x x y y + 3 * x ^ 2 + 2 * A * x + 1) * hslope - 4 * (A + 2 * x) * hequation

/-- The sum of two points with different first coordinates. -/
theorem add_some_of_ne {x₁ y₁ x₂ y₂ : F} (hne : x₁ ≠ x₂) (h₁ : (curve A).Nonsingular x₁ y₁)
    (h₂ : (curve A).Nonsingular x₂ y₂) :
    ∃ x' y' h', (Point.some x₁ y₁ h₁ + Point.some x₂ y₂ h₂ : (curve A).Point) = Point.some x' y' h' ∧
      (x₁ - x₂) ^ 2 * x' = (y₁ - y₂) ^ 2 - (A + x₁ + x₂) * (x₁ - x₂) ^ 2 := by
  have hslope : (x₁ - x₂) * (curve A).slope x₁ x₂ y₁ y₂ = y₁ - y₂ := by
    rw [slope_of_X_ne hne, mul_div_cancel₀ _ (sub_ne_zero.mpr hne)]
  refine ⟨_, _, _, Point.add_of_X_ne hne, ?_⟩
  have hx : (curve A).addX x₁ x₂ ((curve A).slope x₁ x₂ y₁ y₂) = (curve A).slope x₁ x₂ y₁ y₂ ^ 2 - A - x₁ - x₂ := by
    simp only [addX, curve]
    ring
  rw [hx]
  linear_combination ((x₁ - x₂) * (curve A).slope x₁ x₂ y₁ y₂ + y₁ - y₂) * hslope

/-- **Doubling.** -/
theorem represents_double (h2 : (2 : F) ≠ 0) (ha24 : 4 * a24 = A - 2) (hP : Represents P S) :
    Represents (P + P) (double a24 S) := by
  have h4 : (4 : F) ≠ 0 := by
    rw [show (4 : F) = 2 * 2 by norm_num]
    exact mul_ne_zero h2 h2
  cases P with
  | zero =>
      obtain ⟨hz, hx⟩ := hP
      have hdouble : double a24 S = { x := S.x ^ 4, z := 0 } := by
        simp only [double, hz, XZ.mk.injEq]
        constructor <;> ring
      rw [hdouble]
      show Represents (0 + 0 : (curve A).Point) _
      rw [add_zero]
      exact ⟨rfl, pow_ne_zero 4 hx⟩
  | some x y h =>
      obtain ⟨hz, hx⟩ := hP
      have hequation := equation_of_nonsingular h
      have hdouble : double a24 S = { x := S.z ^ 4 * (x ^ 2 - 1) ^ 2, z := 4 * S.z ^ 4 * y ^ 2 } := by
        simp only [double, hx, XZ.mk.injEq]
        constructor
        · ring
        · linear_combination 4 * x ^ 2 * S.z ^ 4 * ha24 - 4 * S.z ^ 4 * hequation
      rw [hdouble]
      by_cases hy : y = 0
      · subst hy
        have hself : (Point.some x 0 h + Point.some x 0 h : (curve A).Point) = 0 :=
          Point.add_self_of_Y_eq (by rw [negY_curve, neg_zero])
        rw [hself]
        refine ⟨by ring, mul_ne_zero (pow_ne_zero 4 hz) (pow_ne_zero 2 ?_)⟩
        -- a point of order two with `x² = 1` would be singular
        intro hone
        apply derivative_ne_zero h
        linear_combination (-(2 * x ^ 2 + 1) - 2 * A * x) * hone - 2 * x * hequation
      · obtain ⟨x', y', h', hsum, hx'⟩ := double_some h2 hy h
        rw [hsum]
        refine ⟨mul_ne_zero (mul_ne_zero h4 (pow_ne_zero 4 hz)) (pow_ne_zero 2 hy), ?_⟩
        linear_combination -S.z ^ 4 * hx'

/-- **Differential addition.** -/
theorem represents_diffAdd {u v : F} {hD : (curve A).Nonsingular u v} (h2 : (2 : F) ≠ 0) (hu : u ≠ 0)
    (hP : Represents P S) (hQ : Represents Q T) (hdiff : Q = P + Point.some u v hD) :
    Represents (P + Q) (diffAdd u S T) := by
  cases P with
  | zero =>
      obtain ⟨hSz, hSx⟩ := hP
      have hQD : Q = Point.some u v hD := hdiff.trans (zero_add _)
      subst hQD
      obtain ⟨hTz, hTx⟩ := hQ
      show Represents (0 + Point.some u v hD) _
      rw [zero_add]
      have hadd : diffAdd u S T = { x := u * ((2 * T.z * S.x) ^ 2 * u), z := (2 * T.z * S.x) ^ 2 * u } := by
        simp only [diffAdd, hSz, hTx, XZ.mk.injEq]
        constructor <;> ring
      rw [hadd]
      exact ⟨mul_ne_zero (pow_ne_zero 2 (mul_ne_zero (mul_ne_zero h2 hTz) hSx)) hu, rfl⟩
  | some x₁ y₁ h₁ =>
      obtain ⟨hSz, hSx⟩ := hP
      cases Q with
      | zero =>
          obtain ⟨hTz, hTx⟩ := hQ
          -- the first point is the negative of the difference
          have hneg : Point.some x₁ y₁ h₁ = -Point.some u v hD := eq_neg_of_add_eq_zero_left hdiff.symm
          rw [Point.neg_some, Point.some.injEq] at hneg
          show Represents (Point.some x₁ y₁ h₁ + 0) _
          rw [add_zero]
          have hadd : diffAdd u S T = { x := x₁ * ((2 * S.z * T.x) ^ 2 * u), z := (2 * S.z * T.x) ^ 2 * u } := by
            simp only [diffAdd, hTz, hSx, hneg.1, XZ.mk.injEq]
            constructor <;> ring
          rw [hadd]
          exact ⟨mul_ne_zero (pow_ne_zero 2 (mul_ne_zero (mul_ne_zero h2 hSz) hTx)) hu, rfl⟩
      | some x₂ y₂ h₂ =>
          obtain ⟨hTz, hTx⟩ := hQ
          have hscale : (2 * S.z * T.z) ^ 2 ≠ 0 := pow_ne_zero 2 (mul_ne_zero (mul_ne_zero h2 hSz) hTz)
          rw [diffAdd_affine u hSx hTx]
          by_cases hne : x₁ = x₂
          · -- the points are each other's negative, and the difference is the double of one of them
            have hnegative : Point.some x₁ y₁ h₁ = -Point.some x₂ y₂ h₂ := by
              obtain heq | hneg := Point.X_eq_iff.mp hne
              · rw [← heq, left_eq_add] at hdiff
                exact absurd hdiff (Point.some_ne_zero hD)
              · exact hneg
            have htwice : Point.some x₁ y₁ h₁ + Point.some x₁ y₁ h₁ = -Point.some u v hD := by
              rw [eq_neg_iff_add_eq_zero, add_assoc, ← hdiff, hnegative, neg_add_cancel]
            have hy : y₁ ≠ 0 := by
              intro hzero
              have hself : (Point.some x₁ y₁ h₁ + Point.some x₁ y₁ h₁ : (curve A).Point) = 0 :=
                Point.add_self_of_Y_eq (by rw [negY_curve, hzero, neg_zero])
              rw [hself, zero_eq_neg] at htwice
              exact Point.some_ne_zero hD htwice
            obtain ⟨x', y', h', hdouble, hx'⟩ := double_some h2 hy h₁
            rw [hdouble, Point.neg_some, Point.some.injEq] at htwice
            rw [htwice.1] at hx'
            have h4 : (4 : F) ≠ 0 := by
              rw [show (4 : F) = 2 * 2 by norm_num]
              exact mul_ne_zero h2 h2
            rw [hnegative, neg_add_cancel]
            refine ⟨by rw [hne]; ring, mul_ne_zero hscale ?_⟩
            rw [← hne, ← sq x₁, ← hx']
            exact mul_ne_zero (mul_ne_zero h4 (pow_ne_zero 2 hy)) hu
          · obtain ⟨x', y', h', hsum, hx'⟩ := add_some_of_ne hne h₁ h₂
            have hneg := (nonsingular_neg x₁ y₁).mpr h₁
            obtain ⟨x'', y'', h'', hdifference, hx''⟩ := add_some_of_ne (Ne.symm hne) h₂ hneg
            have hdiff' : Point.some u v hD = Point.some x₂ y₂ h₂ + -Point.some x₁ y₁ h₁ := by
              rw [hdiff]
              abel
            rw [Point.neg_some, hdifference, Point.some.injEq] at hdiff'
            rw [negY_curve, ← hdiff'.1] at hx''
            have hproduct := sum_mul_difference hne (equation_of_nonsingular h₁) (equation_of_nonsingular h₂) hx' hx''
            rw [hsum]
            refine ⟨mul_ne_zero hscale (mul_ne_zero (pow_ne_zero 2 (sub_ne_zero.mpr (Ne.symm hne))) hu), ?_⟩
            rw [hproduct]
            ring

/-- The number of the bits, the highest one first. -/
def ofBits (bits : List Bool) : Nat := bits.foldl (fun n bit => 2 * n + bit.toNat) 0

theorem represents_step {u v : F} {hD : (curve A).Nonsingular u v} (h2 : (2 : F) ≠ 0) (ha24 : 4 * a24 = A - 2)
    (hu : u ≠ 0) {n : Nat} {s : XZ F × XZ F} (hfirst : Represents (n • Point.some u v hD) s.1)
    (hsecond : Represents ((n + 1) • Point.some u v hD) s.2) (bit : Bool) :
    Represents ((2 * n + bit.toNat) • Point.some u v hD) (step a24 u s bit).1 ∧
      Represents ((2 * n + bit.toNat + 1) • Point.some u v hD) (step a24 u s bit).2 := by
  have hsum := represents_diffAdd h2 hu hfirst hsecond (by rw [add_smul, one_smul])
  rw [← add_smul, show n + (n + 1) = 2 * n + 1 by omega] at hsum
  cases bit with
  | false =>
      have hdouble := represents_double h2 ha24 hfirst
      rw [← add_smul, ← two_mul] at hdouble
      exact ⟨hdouble, hsum⟩
  | true =>
      have hdouble := represents_double h2 ha24 hsecond
      rw [← add_smul, show n + 1 + (n + 1) = 2 * n + 1 + 1 by omega] at hdouble
      exact ⟨hsum, hdouble⟩

/-- **The ladder** multiplies a point by its scalar. -/
theorem represents_ladder {u v : F} {hD : (curve A).Nonsingular u v} (h2 : (2 : F) ≠ 0) (ha24 : 4 * a24 = A - 2)
    (hu : u ≠ 0) (bits : List Bool) :
    Represents (ofBits bits • Point.some u v hD) (ladder a24 u bits).1 := by
  have hrun : ∀ (bits : List Bool) (n : Nat) (s : XZ F × XZ F), Represents (n • Point.some u v hD) s.1 →
      Represents ((n + 1) • Point.some u v hD) s.2 →
      Represents (bits.foldl (fun n bit => 2 * n + bit.toNat) n • Point.some u v hD) (bits.foldl (step a24 u) s).1 := by
    intro bits
    induction bits with
    | nil => exact fun n s hfirst _ => hfirst
    | cons bit bits ih =>
        intro n s hfirst hsecond
        obtain ⟨hfirst, hsecond⟩ := represents_step h2 ha24 hu hfirst hsecond bit
        exact ih _ _ hfirst hsecond
  refine hrun bits 0 _ ?_ ?_
  · rw [zero_smul]
    exact ⟨rfl, one_ne_zero⟩
  · rw [zero_add, one_smul]
    exact ⟨one_ne_zero, (mul_one u).symm⟩

end Montgomery
