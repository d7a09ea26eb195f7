import BenchReport.Text.Alphabetic
import BenchReport.Text.Casing

/-!
# Titles

A group name as a heading: underscores become spaces, and every run of letters starts with an upper-case letter and goes on in lower case.
-/

namespace BenchReport.Text

/-- The characters of a title, given whether the one before was a letter. -/
def titleChars (afterLetter : Bool) : List Char → List Char
  | [] => []
  | c :: rest =>
    let shown := if c = '_' then ' ' else c
    if isAlphabetic shown then
      (if afterLetter then toLower shown else toUpper shown) ++ titleChars true rest
    else shown :: titleChars false rest

def title (name : String) : String := String.ofList (titleChars false name.toList)

end BenchReport.Text
