/-!
# Powers, widths and sums

Powers of two and ten, the numbers of values of machine words, and the sum of a
list of numbers.
-/

namespace TriggerLedger

def twoPow (exponent : Nat) : Nat := Nat.pow 2 exponent

def tenPow (exponent : Nat) : Nat := Nat.pow 10 exponent

/-- The number of values of 32 bits. -/
def word32 : Nat := 4294967296

/-- The number of values of 64 bits. -/
def word64 : Nat := 18446744073709551616

/-- The number of negative values of 64 bits with a sign. -/
def half64 : Nat := 9223372036854775808

example : word32 = twoPow 32 ∧ word64 = twoPow 64 ∧ half64 = twoPow 63 := by decide

/-- The sum of a list of numbers. -/
def total (numbers : List Nat) : Nat := numbers.foldr (· + ·) 0

end TriggerLedger
