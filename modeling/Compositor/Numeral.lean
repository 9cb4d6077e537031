/-!
# What a text can say about a number

A text that is read as a number spells one of three things: a decimal, an infinity, or the number
that is undefined.  `Numeral` is that meaning, before any rounding: which scalars can hold it, and
how it is rounded, is a matter of the scalar (`Compositor.Scalar`).
-/

namespace Compositor

/-- The meaning of a number's text, exact and not yet rounded. -/
inductive Numeral where
  /-- `mantissa * 10 ^ exponent`, negated when `negative` holds. -/
  | decimal (negative : Bool) (mantissa : Nat) (exponent : Int)
  /-- An infinity, the negative one when `negative` holds. -/
  | infinite (negative : Bool)
  /-- The undefined number. -/
  | undefined
deriving DecidableEq, Repr, Inhabited

namespace Numeral

/-- The number of decimal digits of `n`; zero has one. -/
def digitCount (n : Nat) : Nat := (Nat.toDigits 10 n).length

end Numeral

end Compositor
