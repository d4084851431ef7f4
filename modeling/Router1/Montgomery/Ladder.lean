import Mathlib.Data.Prod.Basic
import Mathlib.Tactic.Ring

/-!
# The Montgomery ladder

Doubling and differential addition on the first coordinates of points of a Montgomery curve, as fractions, and the
ladder that walks down the bits of a scalar with them. An implementation that swaps the two points instead of choosing
between them may leave them swapped until the next bit.
-/

namespace Montgomery

/-- A fraction `x / z`. -/
structure XZ (F : Type*) where
  x : F
  z : F

variable {F : Type*}

/-- The pair as it is stored while a swap is pending. -/
def stored (swap : Bool) (s : XZ F × XZ F) : XZ F × XZ F := if swap then s.swap else s

/-- A swap on the difference of the pending swap and the next one leaves the pair with the next one pending. -/
theorem stored_xor (swap bit : Bool) (s : XZ F × XZ F) : stored (swap ^^ bit) (stored swap s) = stored bit s := by
  cases swap <;> cases bit <;> rfl

variable [CommRing F]

def double (a24 : F) (P : XZ F) : XZ F :=
  let aa := (P.x + P.z) ^ 2
  let bb := (P.x - P.z) ^ 2
  let e := aa - bb
  { x := aa * bb, z := (a24 * e + aa) * e }

/-- The sum of two points whose difference has the first coordinate `u`. -/
def diffAdd (u : F) (P Q : XZ F) : XZ F :=
  let da := (Q.x - Q.z) * (P.x + P.z)
  let cb := (Q.x + Q.z) * (P.x - P.z)
  { x := (da + cb) ^ 2, z := (da - cb) ^ 2 * u }

theorem diffAdd_comm (u : F) (P Q : XZ F) : diffAdd u P Q = diffAdd u Q P := by
  simp only [diffAdd, XZ.mk.injEq]
  constructor <;> ring

/-- One bit: the pair of `m` and `m + 1` times the point becomes that of `2 * m + bit`. -/
def step (a24 u : F) (s : XZ F × XZ F) : Bool → XZ F × XZ F
  | false => (double a24 s.1, diffAdd u s.1 s.2)
  | true => (diffAdd u s.1 s.2, double a24 s.2)

/-- The ladder, the highest bit first. -/
def ladder (a24 u : F) (bits : List Bool) : XZ F × XZ F :=
  bits.foldl (step a24 u) ({ x := 1, z := 0 }, { x := u, z := 1 })

/-- **The pending swap.** Doubling the first stored point and adding the two is the step of the ladder. -/
theorem stored_step (a24 u : F) (s : XZ F × XZ F) (bit : Bool) :
    (double a24 (stored bit s).1, diffAdd u (stored bit s).1 (stored bit s).2) = stored bit (step a24 u s bit) := by
  cases bit with
  | false => rfl
  | true =>
      show (double a24 s.2, diffAdd u s.2 s.1) = (double a24 s.2, diffAdd u s.1 s.2)
      rw [diffAdd_comm]

end Montgomery
