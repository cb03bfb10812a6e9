import Snowflake.Json.Number

/-!
# Skipping values of JSON

The value of a field that nobody asked for is checked and dropped. Values nest, and each level of
a value takes some of the text, so the length of the text bounds the recursion.
-/

namespace Snowflake.Json

mutual

/-- The text after a value, by recursion on fuel. -/
def skipValueWith : Nat → List Char → Except Fault (List Char)
  | 0, _ => .error .ended
  | fuel + 1, cs =>
    match skipBlanks cs with
    | [] => .error .ended
    | 'n' :: cs => expectWord "ull".toList cs
    | 't' :: cs => expectWord "rue".toList cs
    | 'f' :: cs => expectWord "alse".toList cs
    | '"' :: cs => skipString cs
    | '-' :: cs => skipNumber cs
    | '[' :: cs => skipItemsWith fuel true cs
    | '\x7b' :: cs => skipMembersWith fuel true cs
    | c :: cs => if c.isDigit then skipNumber (c :: cs) else .error .malformed

/-- The text after the items of an array; the `first` one stands without a comma. -/
def skipItemsWith : Nat → Bool → List Char → Except Fault (List Char)
  | 0, _, _ => .error .ended
  | fuel + 1, first, cs =>
    match skipBlanks cs with
    | [] => .error .ended
    | ']' :: cs => .ok cs
    | c :: cs =>
      if first then (skipValueWith fuel (c :: cs)).bind (skipItemsWith fuel false)
      else if c = ',' then (skipValueWith fuel cs).bind (skipItemsWith fuel false)
      else .error .malformed

/-- The text after the members of an object; the `first` one stands without a comma. -/
def skipMembersWith : Nat → Bool → List Char → Except Fault (List Char)
  | 0, _, _ => .error .ended
  | fuel + 1, first, cs =>
    match skipBlanks cs with
    | [] => .error .ended
    | '\x7d' :: cs => .ok cs
    | c :: cs =>
      if first then (skipMemberWith fuel (c :: cs)).bind (skipMembersWith fuel false)
      else if c = ',' then (skipMemberWith fuel cs).bind (skipMembersWith fuel false)
      else .error .malformed

/-- The text after a member: a string, a colon and a value. -/
def skipMemberWith : Nat → List Char → Except Fault (List Char)
  | 0, _ => .error .ended
  | fuel + 1, cs =>
    match skipBlanks cs with
    | [] => .error .ended
    | '"' :: cs =>
      (skipString cs).bind fun cs =>
        match skipBlanks cs with
        | [] => .error .ended
        | ':' :: cs => skipValueWith fuel cs
        | _ => .error .malformed
    | _ => .error .malformed

end

/-- The text after a value. -/
def skipValue (cs : List Char) : Except Fault (List Char) := skipValueWith (3 * cs.length + 3) cs

end Snowflake.Json
