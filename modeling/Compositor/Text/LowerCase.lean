import Compositor.Text.CaseTable

/-!
# Lower-casing

A text is lower-cased character by character, with the two exceptions that the Unicode standard
makes for every language.  The capital I with a dot above becomes two characters, so that the dot is
kept; and the Greek capital sigma has two small letters, the *final* one at the end of a word, that
is, after a letter and not before one.
-/

namespace Compositor.Text

/-- Whether a code point lies in one of the ranges. -/
def inRanges (ranges : List (Nat × Nat)) (c : Char) : Bool :=
  ranges.any fun r => r.1 ≤ c.toNat && c.toNat ≤ r.2

/-- A letter with case. -/
def isCased (c : Char) : Bool := inRanges casedRanges c

/-- A character that is overlooked when the neighbour of a letter is sought. -/
def isOverlooked (c : Char) : Bool := inRanges overlookedRanges c

/-- The small letters of one character, its surroundings aside. -/
def lowerChar (c : Char) : List Char :=
  if c.toNat = 0x130 then [Char.ofNat 0x69, Char.ofNat 0x307]
  else
    match capitalRuns.find? (·.covers c.toNat) with
    | some run => [Char.ofNat (c.toNat + run.shift).toNat]
    | none => [c]

/-- Whether the nearest character that is not overlooked is a letter with case. -/
def meetsCased (side : List Char) : Bool :=
  match side.dropWhile isOverlooked with
  | c :: _ => isCased c
  | [] => false

/-- The capital sigma. -/
def capitalSigma : Char := Char.ofNat 0x3A3

/-- The small sigma within a word, and the one at its end. -/
def smallSigma (atEnd : Bool) : Char := Char.ofNat (if atEnd then 0x3C2 else 0x3C3)

/-- Lower-cases `rest`, which follows the characters `before`, nearest first. -/
def lowerFrom (before : List Char) : List Char → List Char
  | [] => []
  | c :: rest =>
    let here :=
      if c = capitalSigma then [smallSigma (meetsCased before && !meetsCased rest)]
      else lowerChar c
    here ++ lowerFrom (c :: before) rest

/-- A text in small letters. -/
def lower (s : String) : String := String.ofList (lowerFrom [] s.toList)

end Compositor.Text
