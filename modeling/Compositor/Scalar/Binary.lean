import Compositor.Scalar
import Compositor.Scalar.Rounding

/-!
# Binary floating point as a scalar

The scalar with which the program runs: IEEE double precision.  Its sums and products are those of
the machine; what is done here is the passage to and from whole and decimal numbers, which has to be
exact.  A double is taken apart into sign, mantissa and binary exponent (`Binary.ofFloat`), and the
whole numbers next to it are computed from these parts without any rounding.
-/

namespace Compositor

/-- A double taken apart. -/
inductive Binary where
  /-- `mantissa * 2 ^ exponent`, negated when `negative` holds. -/
  | finite (negative : Bool) (mantissa : Nat) (exponent : Int)
  | infinite (negative : Bool)
  | undefined
deriving DecidableEq, Repr

namespace Binary

/-- Sign, mantissa and exponent of a double, read off its 64 bits. -/
def ofFloat (x : Float) : Binary :=
  let bits : Nat := x.toBits.toNat
  let negative := bits >>> 63 == 1
  let biased : Nat := (bits >>> 52) % 2048
  let trailing : Nat := bits % (1 <<< 52)
  if biased = 2047 then
    if trailing = 0 then .infinite negative else .undefined
  else if biased = 0 then .finite negative trailing (-1074)
  else .finite negative ((1 <<< 52) + trailing) ((biased : Int) - 1075)

/-- The numerator of a finite double over `denominator exponent`. -/
def numerator (negative : Bool) (mantissa : Nat) (exponent : Int) : Int :=
  let magnitude : Int := (mantissa <<< exponent.toNat : Nat)
  if negative then -magnitude else magnitude

/-- The denominator of a finite double: one, or the power of two below the point. -/
def denominator (exponent : Int) : Nat := 1 <<< (-exponent).toNat

/-- The whole number that `rounding` finds next to a double. -/
def toWhole (rounding : Int → Nat → Int) : Binary → Except Fault Int
  | .finite s m e => .ok (rounding (numerator s m e) (denominator e))
  | .infinite _ => .error .overflow
  | .undefined => .error .notANumber

/-- The double nearest to a whole number; infinite beyond the range of doubles. -/
def ofInt (n : Int) : Float :=
  let magnitude := Float.ofScientific n.natAbs false 0
  if n < 0 then -magnitude else magnitude

/-- The powers of ten between which doubles are neither zero nor infinite. -/
def decimalRange : Int := 400

/-- The double nearest to a decimal; a decimal far out of range needs no large power of ten. -/
def ofDecimal (negative : Bool) (mantissa : Nat) (exponent : Int) : Float :=
  let magnitude :=
    if mantissa = 0 then 0.0
    else
      let top := exponent + Numeral.digitCount mantissa
      if decimalRange < top then 1.0 / 0.0
      else if top < -decimalRange then 0.0
      else Float.ofScientific mantissa (exponent < 0) exponent.natAbs
  if negative then -magnitude else magnitude

/-- The double that a numeral means. -/
def ofNumeral : Numeral → Float
  | .decimal s m e => ofDecimal s m e
  | .infinite s => if s then -1.0 / 0.0 else 1.0 / 0.0
  | .undefined => 0.0 / 0.0

end Binary

instance : Scalar Float where
  decideLT := Float.decLt
  decideLE := Float.decLe
  ofInt := Binary.ofInt
  ofNumeral := fun t => .ok (Binary.ofNumeral t)
  quotient := fun a b => if b == 0.0 then .error .divisionByZero else .ok (a / b)
  floor := fun x => (Binary.ofFloat x).toWhole Fraction.floor
  roundEven := fun x => (Binary.ofFloat x).toWhole Fraction.nearestEven
  isFinite := Float.isFinite

end Compositor
