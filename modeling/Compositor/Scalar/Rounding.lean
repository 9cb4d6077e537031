/-!
# Whole numbers next to a fraction

Two ways from a fraction `n / d` to a whole number, both exact: downwards, and to the nearest with a
half going to the even neighbour.  Every scalar rounds through these two.
-/

namespace Compositor.Fraction

/-- The largest whole number not above `n / d`. -/
def floor (n : Int) (d : Nat) : Int := n / d

/-- The whole number nearest to `n / d`; a half goes to the even neighbour. -/
def nearestEven (n : Int) (d : Nat) : Int :=
  let q := n / d
  let r := n % d
  if 2 * r < d then q
  else if d < 2 * r then q + 1
  else if q % 2 = 0 then q else q + 1

/-- The nearest whole number is the floor or the one above it. -/
theorem nearestEven_eq_or (n : Int) (d : Nat) :
    nearestEven n d = floor n d ∨ nearestEven n d = floor n d + 1 := by
  unfold nearestEven floor
  dsimp only
  split
  · exact Or.inl rfl
  · split
    · exact Or.inr rfl
    · split
      · exact Or.inl rfl
      · exact Or.inr rfl

end Compositor.Fraction
