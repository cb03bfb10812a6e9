import Snowflake.Text.Quoted

/-!
# Numbers set in a field

A number is written with its sign and then, where the field is wider than that, filled up:
either with zeros between sign and digits, or with a filler on one side or on both. A number
wider than its field is never cut.
-/

namespace Snowflake.Text

/-- Where a number stands in its field. -/
inductive Side where
  | left
  | right
  | center
deriving DecidableEq, Repr

/-- How a number is set in a field. -/
structure Field where
  /-- A number that is not negative gets a `+`. -/
  plus : Bool := false
  /-- The field is filled with zeros after the sign; `filler` and `side` are then unused. -/
  zeros : Bool := false
  filler : Char := ' '
  side : Side := .right
  width : Nat := 0
deriving Repr

namespace Field

/-- The sign that is written before the digits. -/
def sign (f : Field) (negative : Bool) : List Char :=
  if negative then ['-'] else if f.plus then ['+'] else []

/-- The digits with their sign, filled up to the width. Of an odd amount of filler around a
centred number, the odd one stands to its right. -/
def setDigits (f : Field) (negative : Bool) (ds : List Char) : List Char :=
  let sign := f.sign negative
  let gap := f.width - (sign.length + ds.length)
  if f.zeros then sign ++ List.replicate gap '0' ++ ds
  else match f.side with
    | .left => sign ++ ds ++ List.replicate gap f.filler
    | .right => List.replicate gap f.filler ++ sign ++ ds
    | .center =>
      List.replicate (gap / 2) f.filler ++ sign ++ ds ++ List.replicate ((gap + 1) / 2) f.filler

/-- An integer in decimal. -/
def decimal (f : Field) (n : Int) : String :=
  String.ofList (f.setDigits (decide (n < 0)) (Nat.toDigits 10 n.natAbs))

/-- A word in hexadecimal, as the unsigned number with the same bits. -/
def hexadecimal (f : Field) (upper : Bool) (w : Int64) : String :=
  let ds := hex w.toUInt64.toNat
  String.ofList (f.setDigits false (if upper then ds.map Char.toUpper else ds))

end Field

end Snowflake.Text
