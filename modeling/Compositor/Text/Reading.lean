import Compositor.Numeral
import Compositor.Text.Blank
import Compositor.Text.Digit

/-!
# Reading a number from text

A number's text is a sign, then digits with at most one point among or beside them, then an optional
power of ten; or one of the words `inf`, `infinity` and `nan` in any case.  White space around it is
ignored, digits may come from any script, and an underscore may stand between two digits.  Anything
else is no number's text.

The text is first made plain: digits become the ten of ASCII and white space beyond ASCII becomes a
space.  Then the underscores are taken out, and the rest is read by position.
-/

namespace Compositor.Text

/-- A character as a number's text sees it. -/
def plain (c : Char) : Char :=
  if c.toNat < 128 then c
  else if isWhiteSpace c then ' '
  else match digitValue? c with
    | some d => Char.ofNat (48 + d)
    | none => c

/-- A text without its underscores, each of which has to stand between two digits. -/
def dropUnderscores (previous : Char) : List Char → Option (List Char)
  | [] => if previous = '_' then none else some []
  | c :: rest =>
    if c = '_' then
      if previous.isDigit then dropUnderscores c rest else none
    else if previous = '_' && !c.isDigit then none
    else (dropUnderscores c rest).map (c :: ·)

/-- The digits at the front of a text, and what follows them. -/
def digits (s : List Char) : List Char × List Char :=
  (s.takeWhile Char.isDigit, s.dropWhile Char.isDigit)

/-- The value of a row of ASCII digits. -/
def digitsValue (s : List Char) : Nat := s.foldl (fun n c => 10 * n + (c.toNat - 48)) 0

/-- An optional sign at the front of a text: whether it is a minus, and what follows it. -/
def sign : List Char → Bool × List Char
  | '-' :: rest => (true, rest)
  | '+' :: rest => (false, rest)
  | rest => (false, rest)

/-- The power of ten at the end of a number's text: nothing, or `e` with a whole number. -/
def powerOfTen : List Char → Option Int
  | [] => some 0
  | c :: rest =>
    if c.toLower = 'e' then
      let (negative, rest) := sign rest
      let (ds, rest) := digits rest
      if ds.isEmpty || !rest.isEmpty then none
      else some (if negative then -(digitsValue ds : Int) else digitsValue ds)
    else none

/-- The digits of an unsigned number's text with a point, and the power of ten that follows. -/
def unsigned (negative : Bool) (s : List Char) : Option Numeral := do
  let (whole, rest) := digits s
  let (fraction, rest) := match rest with
    | '.' :: rest => digits rest
    | rest => ([], rest)
  if whole.isEmpty && fraction.isEmpty then none
  let power ← powerOfTen rest
  return .decimal negative (digitsValue (whole ++ fraction)) (power - fraction.length)

/-- The words for numbers without digits. -/
def word (negative : Bool) (s : List Char) : Option Numeral :=
  let s := String.ofList (s.map Char.toLower)
  if s = "inf" || s = "infinity" then some (.infinite negative)
  else if s = "nan" then some .undefined
  else none

/-- A text made ready for reading: plain, without white space around it, without underscores. -/
def prepared (s : String) : Option (List Char) :=
  dropUnderscores ' ' (trim isWhiteSpace (s.toList.map plain))

/-- The number that a text spells. -/
def numeral? (s : String) : Option Numeral := do
  let s ← prepared s
  let (negative, s) := sign s
  (unsigned negative s).orElse fun _ => word negative s

/-- A whole number's text has at most so many digits. -/
def maxWholeDigits : Nat := 4300

/-- The whole number that a text spells, without a point and without a power of ten. -/
def whole? (s : String) : Option Int := do
  let s ← prepared s
  let (negative, s) := sign s
  let (ds, rest) := digits s
  if ds.isEmpty || !rest.isEmpty || maxWholeDigits < ds.length then none
  else return if negative then -(digitsValue ds : Int) else digitsValue ds

end Compositor.Text
