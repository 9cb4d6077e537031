import Compositor.Fault
import Compositor.Numeral

/-!
# The numbers of the editor

Every coordinate, size, ratio and opacity is a *scalar*.  All arithmetic of the editor is written
once, over the class `Scalar`, and has two readings: with binary floating point it is what the
program computes, and with exact rational numbers it is the geometry that the program means.

A scalar has addition, subtraction and multiplication as total operations.  The three operations
that can fail say so: a quotient by zero, and the two ways to a whole number (downwards, and to the
nearest one with halves going to the even neighbour), which an infinite or undefined number has not.

The order is used through `<` and `≤` alone, and `==` is the scalar's own comparison, under which
an undefined number differs from everything; `Scalar.same` is sameness as a value.
-/

namespace Compositor

/-- Numbers with which layers are placed, sized and moved. -/
class Scalar (α : Type) extends Add α, Sub α, Mul α, BEq α, LT α, LE α where
  /-- The order is decidable. -/
  decideLT : DecidableLT α
  /-- The order is decidable. -/
  decideLE : DecidableLE α
  /-- The scalar nearest to a whole number. -/
  ofInt : Int → α
  /-- The scalar that a numeral means, rounded to what the scalar can hold. -/
  ofNumeral : Numeral → Except Fault α
  /-- The quotient, which fails for the divisor zero. -/
  quotient : α → α → Except Fault α
  /-- The largest whole number not above. -/
  floor : α → Except Fault Int
  /-- The nearest whole number, of two equally near ones the even one. -/
  roundEven : α → Except Fault Int
  /-- Neither infinite nor undefined. -/
  isFinite : α → Bool

attribute [reducible] Scalar.decideLT Scalar.decideLE
attribute [instance] Scalar.decideLT Scalar.decideLE

namespace Scalar

variable {α : Type} [Scalar α]

/-- `mantissa / 10 ^ places`, for the constants of the editor that are not whole. -/
def ofDecimal (mantissa places : Nat) : α :=
  (ofNumeral (.decimal false mantissa (-places))).toOption.getD (ofInt 0)

/-- The scalar for a whole number, which fails when it is too large for any finite scalar. -/
def ofWhole (n : Int) : Except Fault α :=
  let v : α := ofInt n
  if isFinite v then .ok v else .error .overflow

/-- The larger of two; the first one unless the second is strictly larger. -/
def larger (a b : α) : α := if a < b then b else a

/-- The smaller of two; the first one unless the second is strictly smaller. -/
def smaller (a b : α) : α := if b < a then b else a

/-- Whether the number is the undefined one, which alone differs from itself. -/
def isUndefined (v : α) : Bool := !(v == v)

/-- The same value: equal, or both undefined. -/
def same (a b : α) : Bool := a == b || (isUndefined a && isUndefined b)

/-- Whether the value is at least a whole number, compared without rounding that number: a whole
number may lie between two scalars that are next to each other. -/
def atLeast (v : α) (n : Int) : Bool :=
  match floor v with
  | .ok m => n ≤ m
  | .error _ => decide (ofInt 0 < v)

/-- The nearest whole number, halves going up. -/
def roundHalfUp (v : α) : Except Fault Int := floor (v + ofDecimal 5 1)

/-- Towards zero. -/
def truncate (v : α) : Except Fault Int := do
  let down ← floor v
  if v < ofInt 0 && !(ofInt down == v) then return down + 1 else return down

end Scalar

end Compositor
