import Snowflake.Json.Skip

/-!
# Records of integers in JSON

A record with named integer fields is read from an object or from an array.

**Objects** hold each field once, in any order; members with other names are skipped. **Arrays**
hold exactly the fields, in order.

**Order of faults.** The text is read from left to right and the first fault counts: a repeated
field is one as soon as its name is read, a missing field when the object or array ends. What
follows the record is looked at last.
-/

namespace Snowflake.Json

/-- A text as it is read: the value, and the text after it. -/
abbrev Reading (α : Type) := Except Fault (α × List Char)

/-- The fault of a value that is not a number where one is wanted. -/
def notNumber : List Char → Fault
  | 'n' :: cs => fault (expectWord "ull".toList cs)
  | 't' :: cs => fault (expectWord "rue".toList cs)
  | 'f' :: cs => fault (expectWord "alse".toList cs)
  | '"' :: cs => fault ((readString cs).map Prod.snd)
  | '[' :: _ => .mismatched
  | '\x7b' :: _ => .mismatched
  | _ => .malformed
where
  /-- A value that is sound in itself has the wrong type. -/
  fault : Except Fault (List Char) → Fault
    | .ok _ => .mismatched
    | .error f => f

/-- The integer that a text begins with, if it is accepted. -/
def readInteger (accepts : Int → Bool) (cs : List Char) : Reading Int :=
  match skipBlanks cs with
  | [] => .error .ended
  | c :: cs =>
    if c = '-' ∨ c.isDigit then
      (readNumber (c :: cs)).bind fun (n, cs) =>
        match n with
        | .integer n => if accepts n then .ok (n, cs) else .error .mismatched
        | .inexact => .error .mismatched
    else .error (notNumber (c :: cs))

/-- The integers of an array, one for each field; the `first` one stands without a comma. -/
def readItems (accepts : Int → Bool) : Bool → List String → List Char → Reading (List Int)
  | _, [], cs => .ok ([], cs)
  | first, _ :: fields, cs =>
    let item (cs : List Char) : Reading (List Int) :=
      (readInteger accepts cs).bind fun (n, cs) =>
        (readItems accepts false fields cs).map fun (ns, cs) => (n :: ns, cs)
    match skipBlanks cs with
    | [] => .error .ended
    | ']' :: _ => .error .mismatched
    | c :: cs =>
      if first then item (c :: cs)
      else if c = ',' then
        match skipBlanks cs with
        | [] => .error .ended
        | ']' :: _ => .error .malformed
        | c :: cs => item (c :: cs)
      else .error .malformed

/-- The text after the end of an array whose items are read. -/
def endArray (cs : List Char) : Except Fault (List Char) :=
  match skipBlanks cs with
  | [] => .error .ended
  | ']' :: cs => .ok cs
  | _ => .error .malformed

/-- The text after a colon. -/
def expectColon (cs : List Char) : Except Fault (List Char) :=
  match skipBlanks cs with
  | [] => .error .ended
  | ':' :: cs => .ok cs
  | _ => .error .malformed

/-- The text after the opening quote of the next name, or nothing at the end of the object. -/
def nextName (first : Bool) (cs : List Char) : Except Fault (Option (List Char)) :=
  match skipBlanks cs with
  | [] => .error .ended
  | '\x7d' :: _ => .ok none
  | c :: cs =>
    if first then if c = '"' then .ok (some cs) else .error .malformed
    else if c = ',' then
      match skipBlanks cs with
      | [] => .error .ended
      | '"' :: cs => .ok (some cs)
      | _ => .error .malformed
    else .error .malformed

/-- The fields of an object up to its closing brace, by recursion on fuel. -/
def readMembersWith (accepts : Int → Bool) (fields : List String) :
    Nat → Bool → List (String × Int) → List Char → Reading (List (String × Int))
  | 0, _, _, _ => .error .ended
  | fuel + 1, first, found, cs =>
    (nextName first cs).bind fun
      | none => .ok (found, cs)
      | some cs =>
        (readString cs).bind fun (name, cs) =>
          let name := String.ofList name
          if name ∈ fields then
            if (found.lookup name).isSome then .error .mismatched
            else (expectColon cs).bind fun cs =>
              (readInteger accepts cs).bind fun (n, cs) =>
                readMembersWith accepts fields fuel false ((name, n) :: found) cs
          else (expectColon cs).bind fun cs =>
            (skipValue cs).bind fun cs => readMembersWith accepts fields fuel false found cs

/-- The integers of an object, in the order of the fields. -/
def readObject (accepts : Int → Bool) (fields : List String) (cs : List Char) :
    Reading (List Int) :=
  (readMembersWith accepts fields (cs.length + 1) true [] cs).bind fun (found, cs) =>
    match fields.mapM fun f => found.lookup f with
    | some ns => .ok (ns, (skipBlanks cs).drop 1)
    | none => .error .mismatched

/-- The integers of the record that a text begins with, in the order of the fields. -/
def readRecord (accepts : Int → Bool) (fields : List String) (cs : List Char) :
    Reading (List Int) :=
  match skipBlanks cs with
  | [] => .error .ended
  | '[' :: cs =>
    (readItems accepts true fields cs).bind fun (ns, cs) =>
      (endArray cs).map fun cs => (ns, cs)
  | '\x7b' :: cs => readObject accepts fields cs
  | c :: cs =>
    if c = '-' ∨ c.isDigit then
      (readNumber (c :: cs)).bind fun _ => .error .mismatched
    else .error (notNumber (c :: cs))

/-- Nothing but blanks may follow. -/
def endText (cs : List Char) : Except Fault Unit :=
  if skipBlanks cs = [] then .ok () else .error .malformed

/-- A record of integers as an object without blanks. -/
def writeRecord (members : List (String × Int)) : String :=
  "\x7b" ++ ",".intercalate (members.map fun (name, n) => "\"" ++ name ++ "\":" ++ toString n) ++
    "\x7d"

end Snowflake.Json
