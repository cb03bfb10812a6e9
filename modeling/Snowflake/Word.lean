/-!
# Arithmetic on 64-bit words

Sums and differences of signed words that do not wrap around: either they stop at the end of the
range, or they report that the result does not fit. Also the logical shift, which treats the sign
bit as one bit among others.
-/

namespace Snowflake.Word

/-- The integer is a signed word. -/
def InRange (n : Int) : Prop := Int64.minValue.toInt ≤ n ∧ n ≤ Int64.maxValue.toInt

instance (n : Int) : Decidable (InRange n) := inferInstanceAs (Decidable (_ ∧ _))

/-- `a - b`, or the end of the range on the side where it leaves it. -/
def subSaturating (a b : Int64) : Int64 := Int64.ofIntClamp (a.toInt - b.toInt)

/-- `a + b`, or the end of the range on the side where it leaves it. -/
def addSaturating (a b : Int64) : Int64 := Int64.ofIntClamp (a.toInt + b.toInt)

/-- `a + b` if it fits. -/
def addChecked? (a b : Int64) : Option Int64 :=
  if InRange (a.toInt + b.toInt) then some (a + b) else none

/-- The word shifted right by `k < 64` bits, with zeros coming in from the left. -/
def shiftRightLogical (a : Int64) (k : Nat) : Int64 := (a.toUInt64 >>> UInt64.ofNat k).toInt64

end Snowflake.Word
