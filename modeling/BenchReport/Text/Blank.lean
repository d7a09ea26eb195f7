import BenchReport.Text.CodeRange

/-!
# Blanks

White space in the sense of the Unicode property White_Space, and the two things done with it: trimming a text and cutting it into words.
-/

namespace BenchReport.Text

def blankRanges : List (Nat × Nat) := [
  (0x9, 0xd), (0x20, 0x20), (0x85, 0x85), (0xa0, 0xa0), (0x1680, 0x1680), (0x2000, 0x200a),
  (0x2028, 0x2029), (0x202f, 0x202f), (0x205f, 0x205f), (0x3000, 0x3000)]

def isBlank (c : Char) : Bool := inRanges c.toNat blankRanges

def trimChars (chars : List Char) : List Char :=
  ((chars.dropWhile isBlank).reverse.dropWhile isBlank).reverse

def trim (text : String) : String := String.ofList (trimChars text.toList)

def wordsOf (chars : List Char) : List (List Char) :=
  (chars.splitOnP isBlank).filter fun word => !word.isEmpty

def words (text : String) : List String := (wordsOf text.toList).map String.ofList

end BenchReport.Text
