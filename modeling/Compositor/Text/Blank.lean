/-!
# Blank characters

Two notions of a blank are needed.  A *white space* character is one with the Unicode property of
that name; it may surround a number.  A *blank* is a white space character or one of the four
information separators U+001C to U+001F; blanks are trimmed from the words of a preference, and a
run of them becomes one underscore in a file name.
-/

namespace Compositor.Text

/-- The Unicode property `White_Space`. -/
def isWhiteSpace (c : Char) : Bool :=
  let n := c.toNat
  (0x09 ≤ n && n ≤ 0x0D) || n == 0x20 || n == 0x85 || n == 0xA0 || n == 0x1680
    || (0x2000 ≤ n && n ≤ 0x200A) || n == 0x2028 || n == 0x2029 || n == 0x202F || n == 0x205F
    || n == 0x3000

/-- The information separators of ASCII. -/
def isSeparator (c : Char) : Bool := 0x1C ≤ c.toNat && c.toNat ≤ 0x1F

/-- White space, or an information separator. -/
def isBlank (c : Char) : Bool := isWhiteSpace c || isSeparator c

/-- A text without the characters in `p` at its two ends. -/
def trim (p : Char → Bool) (s : List Char) : List Char :=
  ((s.dropWhile p).reverse.dropWhile p).reverse

/-- Every run of characters in `p`, replaced by one character. -/
def squeeze (p : Char → Bool) (by_ : Char) : List Char → List Char
  | [] => []
  | [c] => if p c then [by_] else [c]
  | c :: d :: rest =>
    if p c then
      if p d then squeeze p by_ (d :: rest) else by_ :: squeeze p by_ (d :: rest)
    else c :: squeeze p by_ (d :: rest)

end Compositor.Text
