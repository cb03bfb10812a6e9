/-!
# Characters and strings of JSON

The lowest layer of reading JSON from left to right: the kinds of fault, the blanks between
tokens, and strings with their escapes.

**Faults** are told apart by what is wrong where reading stops: the text ends too early, it is not
JSON, or it is JSON of the wrong shape.

**Strings** are read in two ways. `readString` decodes the escapes and wants surrogates in pairs;
`skipString` only looks for the end and takes any four hexadecimal digits after `\u`.
-/

namespace Snowflake.Json

/-- What is wrong with a text. -/
inductive Fault where
  /-- It ends too early. -/
  | ended
  /-- It is not JSON, or there is more than was asked for. -/
  | malformed
  /-- A value has the wrong type or range, or a field is missing or repeated. -/
  | mismatched
deriving DecidableEq, Repr

/-- A blank that may stand between tokens. -/
def isBlank (c : Char) : Bool := c == ' ' || c == '\n' || c == '\t' || c == '\r'

/-- The text from its next token on. -/
def skipBlanks (cs : List Char) : List Char := cs.dropWhile isBlank

/-- The text after a word that must stand at its beginning. -/
def expectWord : List Char → List Char → Except Fault (List Char)
  | [], cs => .ok cs
  | _ :: _, [] => .error .ended
  | w :: ws, c :: cs => if c = w then expectWord ws cs else .error .malformed

/-- The value of a hexadecimal digit of either case. -/
def hexDigit? (c : Char) : Option Nat :=
  if c.isDigit then some (c.toNat - 48)
  else if 'a' ≤ c ∧ c ≤ 'f' then some (c.toNat - 87)
  else if 'A' ≤ c ∧ c ≤ 'F' then some (c.toNat - 55)
  else none

/-- The number that four hexadecimal digits give. -/
def hexFour? (a b c d : Char) : Option Nat :=
  match hexDigit? a, hexDigit? b, hexDigit? c, hexDigit? d with
  | some a, some b, some c, some d => some (((a * 16 + b) * 16 + c) * 16 + d)
  | _, _, _, _ => none

/-- Why four hexadecimal digits do not follow: fewer than four bytes are left, or they are not all
such digits. -/
def hexFault (cs : List Char) : Fault :=
  if (String.ofList cs).utf8ByteSize < 4 then .ended else .malformed

/-- The character that a letter after a backslash stands for. -/
def escapeOf? (c : Char) : Option Char :=
  match c with
  | '"' => some '"'
  | '\\' => some '\\'
  | '/' => some '/'
  | 'b' => some '\x08'
  | 'f' => some '\x0c'
  | 'n' => some '\n'
  | 'r' => some '\r'
  | 't' => some '\t'
  | _ => none

/-- The text after a string whose opening quote is already read. -/
def skipString : List Char → Except Fault (List Char)
  | [] => .error .ended
  | '"' :: cs => .ok cs
  | ['\\'] => .error .ended
  | '\\' :: 'u' :: a :: b :: c :: d :: cs =>
    if (hexFour? a b c d).isSome then skipString cs
    else .error (hexFault (a :: b :: c :: d :: cs))
  | '\\' :: 'u' :: cs => .error (hexFault cs)
  | '\\' :: e :: cs => if (escapeOf? e).isSome then skipString cs else .error .malformed
  | c :: cs => if c.toNat < 0x20 then .error .malformed else skipString cs

/-- The second half of a surrogate pair. -/
def isLowSurrogate (n : Nat) : Bool := 0xDC00 ≤ n && n ≤ 0xDFFF

/-- The first half of a surrogate pair. -/
def isHighSurrogate (n : Nat) : Bool := 0xD800 ≤ n && n ≤ 0xDBFF

/-- A string read, with the text after it. -/
abbrev ReadString := Except Fault (List Char × List Char)

/-- The string with one more character before it. -/
def ReadString.cons (c : Char) (r : ReadString) : ReadString := r.map fun (s, cs) => (c :: s, cs)

/-- The content of a string whose opening quote is already read, and the text after it. -/
def readString : List Char → ReadString
  | [] => .error .ended
  | '"' :: cs => .ok ([], cs)
  | ['\\'] => .error .ended
  | '\\' :: 'u' :: a :: b :: c :: d :: cs =>
    match hexFour? a b c d with
    | none => .error (hexFault (a :: b :: c :: d :: cs))
    | some n =>
      if isLowSurrogate n then .error .malformed
      else if isHighSurrogate n then
        match cs with
        | [] => .error .ended
        | ['\\'] => .error .ended
        | '\\' :: 'u' :: a :: b :: c :: d :: cs =>
          match hexFour? a b c d with
          | none => .error (hexFault (a :: b :: c :: d :: cs))
          | some m =>
            if isLowSurrogate m then
              ReadString.cons (Char.ofNat (0x10000 + (n - 0xD800) * 0x400 + (m - 0xDC00)))
                (readString cs)
            else .error .malformed
        | '\\' :: 'u' :: cs => .error (hexFault cs)
        | _ => .error .malformed
      else ReadString.cons (Char.ofNat n) (readString cs)
  | '\\' :: 'u' :: cs => .error (hexFault cs)
  | '\\' :: e :: cs =>
    match escapeOf? e with
    | some c => ReadString.cons c (readString cs)
    | none => .error .malformed
  | c :: cs => if c.toNat < 0x20 then .error .malformed else ReadString.cons c (readString cs)

end Snowflake.Json
