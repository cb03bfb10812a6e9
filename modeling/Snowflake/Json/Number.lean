import Snowflake.Json.Text
import Snowflake.Word

/-!
# Numbers of JSON

A number has an optional minus sign, digits without a leading zero, and perhaps a fraction and an
exponent. It is an **integer** only if it has neither of the latter, is not `-0`, and fits a
signed or an unsigned 64-bit word; any other number is **inexact**.

**Reading** a number checks that it is not beyond the largest double, **skipping** one does not.
The check is on the number as it is put together: the leading digits that fit a 64-bit word, times
a power of ten, each of the two rounded to a double and then their product. The two also differ in
what they call a number that is cut off by the end of the text.
-/

namespace Snowflake.Json

/-- What a number is read as. -/
inductive Number where
  | integer (n : Int)
  | inexact
deriving DecidableEq, Repr

/-- The leading digits of a text, and the text after them. -/
def splitDigits (cs : List Char) : List Char × List Char :=
  (cs.takeWhile Char.isDigit, cs.dropWhile Char.isDigit)

/-- At least one digit, or else the fault: `cut` at the end of the text. -/
def someDigits (cut : Fault) (cs : List Char) : Except Fault (List Char × List Char) :=
  match splitDigits cs with
  | ([], []) => .error cut
  | ([], _ :: _) => .error .malformed
  | split => .ok split

/-- The digits before the fraction: a zero alone, or digits that begin with another one. -/
def wholeDigits (cut : Fault) (cs : List Char) : Except Fault (List Char × List Char) :=
  (someDigits cut cs).bind fun (ds, cs) =>
    if ds.head? = some '0' ∧ ds ≠ ['0'] then .error .malformed else .ok (ds, cs)

/-- The digits of a fraction if there is one. -/
def fraction (cut : Fault) : List Char → Except Fault (Option (List Char) × List Char)
  | '.' :: cs => (someDigits cut cs).map fun (ds, cs) => (some ds, cs)
  | cs => .ok (none, cs)

/-- The sign, negative or not, and the digits of an exponent if there is one. -/
def exponent (cut : Fault) : List Char → Except Fault (Option (Bool × List Char) × List Char)
  | c :: cs =>
    if c = 'e' ∨ c = 'E' then
      let (negative, cs) := match cs with
        | '+' :: cs => (false, cs)
        | '-' :: cs => (true, cs)
        | cs => (false, cs)
      (someDigits cut cs).map fun (ds, cs) => (some (negative, ds), cs)
    else .ok (none, c :: cs)
  | [] => .ok (none, [])

/-- The digits of a number by their places. -/
structure Digits where
  whole : List Char
  fraction : Option (List Char)
  exponent : Option (Bool × List Char)
deriving DecidableEq, Repr

/-- The digits of a number after its sign, and the text after it. -/
def digits (cut : Fault) (cs : List Char) : Except Fault (Digits × List Char) :=
  (wholeDigits cut cs).bind fun (whole, cs) =>
    (fraction cut cs).bind fun (fraction, cs) =>
      (exponent cut cs).map fun (exponent, cs) => (⟨whole, fraction, exponent⟩, cs)

/-- The text after a number whose sign is already read. -/
def skipNumber (cs : List Char) : Except Fault (List Char) :=
  (digits .malformed cs).map Prod.snd

/-- The least magnitude that rounds to infinity as a double. -/
def doubleLimit : Nat := Nat.pow 2 1024 - Nat.pow 2 970

/-- The double nearest to `n`, and of two such doubles the one whose last place is even. -/
def nearestDouble (n : Nat) : Nat :=
  let unit := Nat.pow 2 (n.log2 - 52)
  let below := n / unit
  let rest := 2 * (n % unit)
  if rest < unit ∨ rest = unit ∧ below % 2 = 0 then below * unit else (below + 1) * unit

/-- The double nearest to `n` times the one nearest to `10 ^ e` is beyond the largest double. A
power of ten that is none itself goes beyond it for every `n` but zero. -/
def isBeyondDouble (n : Nat) (e : Int) : Bool :=
  n != 0 && (308 < e ||
    0 ≤ e && doubleLimit ≤ nearestDouble n * nearestDouble (Nat.pow 10 e.toNat))

/-- A natural number continued by digits as long as it fits an unsigned 64-bit word, and the
digits that are left. -/
def continueWord (n : Nat) : List Char → Nat × List Char
  | [] => (n, [])
  | c :: cs =>
    let m := 10 * n + (c.toNat - '0'.toNat)
    if m < UInt64.size then continueWord m cs else (n, c :: cs)

namespace Digits

/-- The power of ten that is written out. -/
def writtenExponent (d : Digits) : Int :=
  match d.exponent with
  | none => 0
  | some (negative, ds) =>
    let n := Nat.ofDigitChars 10 ds 0
    if negative then -n else n

/-- The number as a word times a power of ten. Digits of the whole part that do not fit the word
count for their places only, and such digits of the fraction not at all. -/
def scaled (d : Digits) : Nat × Int :=
  let (n, extra) := continueWord 0 d.whole
  let places := d.fraction.getD []
  let (n, dropped) := continueWord n places
  (n, d.writtenExponent + extra.length + dropped.length - places.length)

/-- What the digits are read as after a sign. -/
def number (d : Digits) (negative : Bool) : Except Fault Number :=
  let inexact : Except Fault Number :=
    if isBeyondDouble d.scaled.1 d.scaled.2 then .error .malformed else .ok .inexact
  match d.fraction, d.exponent with
  | none, none =>
    let n := Nat.ofDigitChars 10 d.whole 0
    if negative then if 0 < n ∧ Word.InRange (-n) then .ok (.integer (-n)) else inexact
    else if n < UInt64.size then .ok (.integer n) else inexact
  | _, _ => inexact

end Digits

/-- The number that a text begins with, and the text after it. -/
def readNumber (cs : List Char) : Except Fault (Number × List Char) :=
  let (negative, cs) := match cs with
    | '-' :: cs => (true, cs)
    | cs => (false, cs)
  (digits .ended cs).bind fun (d, cs) => (d.number negative).map fun n => (n, cs)

end Snowflake.Json
