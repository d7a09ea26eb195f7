import BenchReport.Number.Binary64

/-!
# Random numbers

A stream of random numbers that a seed decides. It is a counter with a fixed odd stride, scrambled on the way out.
-/

namespace BenchReport

-- Powers are those of the core library, whatever is in scope; literal exponents need their type for it.
attribute [local instance (high)] instPowNat

structure RandomStream where
  state : UInt64
  deriving DecidableEq, Repr

namespace RandomStream

def ofSeed (seed : UInt64) : RandomStream := ⟨seed⟩

/-- Spreads every bit of a counter over the whole word. -/
def scramble (word : UInt64) : UInt64 :=
  let first := (word ^^^ (word >>> 30)) * 0xbf58476d1ce4e5b9
  let second := (first ^^^ (first >>> 27)) * 0x94d049bb133111eb
  second ^^^ (second >>> 31)

def next (stream : RandomStream) : UInt64 × RandomStream :=
  let state := stream.state + 0x9e3779b97f4a7c15
  (scramble state, ⟨state⟩)

/-- A multiple of 2⁻⁵³ that is at least zero and below one. -/
def unit (stream : RandomStream) : Float × RandomStream :=
  let (word, rest) := stream.next
  (Binary64.ofInt (word >>> 11).toNat / Binary64.ofInt (2 ^ (53 : Nat)), rest)

/-- A number from the lower of two bounds up to the upper one. -/
def between (low high : Float) (stream : RandomStream) : Float × RandomStream :=
  let (share, rest) := stream.unit
  (low + share * (high - low), rest)

/-! ### Closed ranges -/

/-- The greatest multiple of 2⁻⁵² below one. -/
def greatestShare : Float := Binary64.ofInt (2 ^ (52 : Nat) - 1) / Binary64.ofInt (2 ^ (52 : Nat))

/-- A multiple of 2⁻⁵² that is at least zero and at most the greatest share. -/
def share (stream : RandomStream) : Float × RandomStream :=
  let (word, rest) := stream.next
  (Binary64.ofInt (word >>> 12).toNat / Binary64.ofInt (2 ^ (52 : Nat)), rest)

/-- What to take shares of, so that the greatest one reaches from the lower bound to the upper. It is a little more than the width and is infinite for the widest ranges. -/
def stride (low high : Float) : Float := (high - low) / greatestShare

/-- A number between two bounds, both included. -/
def within (low high : Float) (stream : RandomStream) : Float × RandomStream :=
  let (share, rest) := stream.share
  let value := low + share * stride low high
  (if high < value then high else value, rest)

end RandomStream

end BenchReport
