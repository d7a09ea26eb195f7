/-!
# Greatest and least numbers

The greatest and least numbers of a list, where a NaN stands for no number at all: it never wins against a number, and a list without numbers has a NaN as its extremum.
-/

namespace BenchReport

/-- The greater of two numbers, or the one that is a number. -/
def greater (x y : Float) : Float :=
  if x.isNaN then y else if y.isNaN then x else if x < y then y else x

/-- The lesser of two numbers, or the one that is a number. -/
def lesser (x y : Float) : Float :=
  if x.isNaN then y else if y.isNaN then x else if y < x then y else x

def notANumber : Float := 0 / 0

def greatest (values : List Float) : Float := values.foldl greater notANumber

def least (values : List Float) : Float := values.foldl lesser notANumber

end BenchReport
