import Snowflake.Word

/-!
# Decimal numerals

How numbers are read from and written to text: an optional sign and one or more ASCII digits,
with any number of leading zeros and nothing else before, between or after them.

**Unsigned numerals** take only a `+`, and are refused from a bound on. **Signed numerals** take
either sign, and are refused outside the range of a 64-bit word.
-/

namespace Snowflake.Text

/-- The number that one or more digits denote. -/
def digits? (cs : List Char) : Option Nat :=
  if cs ≠ [] ∧ cs.all Char.isDigit then some (Nat.ofDigitChars 10 cs 0) else none

/-- The unsigned number that a numeral denotes, if it is below `bound`. -/
def unsigned? (bound : Nat) (cs : List Char) : Option Nat :=
  let body := match cs with
    | '+' :: r => r
    | _ => cs
  (digits? body).filter (· < bound)

/-- The integer that a numeral denotes, whatever its size. -/
def integer? : List Char → Option Int
  | '+' :: r => (digits? r).map Int.ofNat
  | '-' :: r => (digits? r).map fun n => -(n : Int)
  | cs => (digits? cs).map Int.ofNat

/-- The 64-bit signed word that a numeral denotes. -/
def word? (cs : List Char) : Option Int64 :=
  ((integer? cs).filter fun n => Word.InRange n).map Int64.ofInt

/-- The digits of a natural number, without leading zeros. -/
def natural (n : Nat) : String := n.repr

/-- An integer with a minus sign if it is negative. -/
def integer (n : Int) : String := if n < 0 then "-" ++ n.natAbs.repr else n.natAbs.repr

/-- A signed word in decimal. -/
def word (w : Int64) : String := integer w.toInt

end Snowflake.Text
