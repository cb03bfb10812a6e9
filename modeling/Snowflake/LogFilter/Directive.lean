import Snowflake.LogFilter.Pattern
import Snowflake.Text.Numeral

/-!
# Directives of a log filter

A directive has a source, a span in brackets, within the span's brackets a field in braces, and
after an equals sign a level. Each part may be missing, but the level only with its sign. A text
without brackets and sign is a level if it names one, and otherwise a source.

**Levels** are named in any case, or numbered from 0 to 5. A directive without a level lets
everything through.

**Places.** The places of the parts are those in the text without the blanks around it, counted in
bytes, but the parts are cut out of the text with its blanks. So blanks at its beginning shift the
parts, and blanks at its end belong to the last of them.
-/

namespace Snowflake.LogFilter

open Text

/-! ## Texts by bytes -/

/-- The number of bytes that a text takes. -/
def byteLength : List Char → Nat
  | [] => 0
  | c :: cs => c.utf8Size + byteLength cs

/-- The text after so many bytes, if a character ends there. -/
def dropBytes? (n : Nat) : List Char → Option (List Char)
  | [] => if n = 0 then some [] else none
  | c :: cs =>
    if n = 0 then some (c :: cs)
    else if c.utf8Size ≤ n then dropBytes? (n - c.utf8Size) cs
    else none

/-- The first so many bytes of a text, if a character ends there. -/
def takeBytes? (n : Nat) : List Char → Option (List Char)
  | [] => if n = 0 then some [] else none
  | c :: cs =>
    if n = 0 then some []
    else if c.utf8Size ≤ n then (takeBytes? (n - c.utf8Size) cs).map (c :: ·)
    else none

/-- So many bytes of a text from a place on. -/
def cut? (cs : List Char) (start count : Nat) : Option (List Char) :=
  (dropBytes? start cs).bind (takeBytes? count)

/-! ## Levels -/

/-- The rank of each name of a level. -/
def levelNames : List (String × Nat) :=
  [("off", 0), ("error", 1), ("warn", 2), ("info", 3), ("debug", 4), ("trace", 5)]

/-- The rank of a level by name or number. -/
def rank? (cs : List Char) : Option Nat :=
  ((unsigned? UInt64.size cs).filter (· ≤ 5)).or
    (levelNames.lookup (String.ofList (cs.map Char.toLower)))

/-- The rank that lets everything through. -/
def fullRank : Nat := 5

/-! ## Fields -/

/-- A field that a directive asks for. -/
structure Field where
  name : List Char
  /-- The text of its value, if that matters. -/
  value : Option (List Char)
deriving DecidableEq, Repr

/-- The text is digits, perhaps with a point among or beside them. -/
def isFixedPoint (cs : List Char) : Bool :=
  cs.any Char.isDigit && cs.all (fun c => c.isDigit || c == '.') && decide (cs.count '.' ≤ 1)

/-- The text is a number in floating point, without its sign. -/
def isFloating (cs : List Char) : Bool :=
  let isExponent (cs : List Char) : Bool :=
    match cs with
    | [] => true
    | _ :: cs => (integer? cs).isSome
  ["inf", "infinity", "nan"].contains (String.ofList (cs.map Char.toLower)) ||
    isFixedPoint (cs.takeWhile fun c => c != 'e' && c != 'E') &&
      isExponent (cs.dropWhile fun c => c != 'e' && c != 'E')

/-- The text can be asked for as a value: a number, or a pattern. -/
def isValue (cs : List Char) : Bool :=
  (match cs with
    | '+' :: cs | '-' :: cs | cs => isFloating cs) || Pattern.isPattern cs

/-- The field that a text asks for: its name, and after an equals sign its value. What follows a
second equals sign is left out. -/
def field? (cs : List Char) : Option Field :=
  let name := cs.takeWhile (· != '=')
  match cs.dropWhile (· != '=') with
  | [] => some { name, value := none }
  | _ :: cs =>
    let value := cs.takeWhile (· != '=')
    if isValue value then some { name, value := some value } else none

/-! ## Directives -/

/-- One condition of a filter. -/
structure Directive where
  /-- What the source of an event has to begin with. -/
  source : Option (List Char) := none
  /-- The span that it concerns. -/
  span : Option (List Char) := none
  field : Option Field := none
  /-- The highest rank that it lets through. -/
  rank : Nat := fullRank
deriving DecidableEq, Repr

/-- The character may begin a source. -/
def isSourceStart (c : Char) : Bool := isAlphanumeric c || c == '_' || c == ':' || c == '-'

/-- The directive that a text without brackets and equals signs gives. -/
def plainDirective (text : List Char) : Directive :=
  match rank? text with
  | some rank => { rank }
  | none => { source := some text }

namespace Directive

/-- The directive with the level that begins at a place. -/
def withLevelFrom? (d : Directive) (text : List Char) (place : Nat) : Option Directive :=
  (dropBytes? place text).bind fun level =>
    if level.isEmpty then some d else (rank? level).map fun rank => { d with rank }

/-- The directive with the level that follows the brackets, if one does. -/
def afterBrackets? (d : Directive) (text : List Char) (place : Nat) :
    List Char → Option Directive
  | [] => some d
  | '=' :: _ => d.withLevelFrom? text (place + 1)
  | _ => none

/-- The directive with the span and the field in brackets, and all that follows. The opening
bracket is read, and `rest` follows it at a place. -/
def withBrackets? (d : Directive) (text : List Char) (place : Nat) (rest : List Char) :
    Option Directive :=
  let span := rest.takeWhile fun c => c != ']' && c != '\x7b'
  let fieldPlace := place + byteLength span + 1
  (cut? text place (byteLength span)).bind fun name =>
    match rest.dropWhile fun c => c != ']' && c != '\x7b' with
    | ']' :: rest => afterBrackets? { d with span := some name } text fieldPlace rest
    | _ :: rest =>
      let field := rest.takeWhile (· != '\x7d')
      let d := { d with span := if name.isEmpty then none else some name }
      match field, rest.dropWhile (· != '\x7d') with
      | _ :: _, _ :: ']' :: rest =>
        ((cut? text fieldPlace (byteLength field)).bind field?).bind fun f =>
          afterBrackets? { d with field := some f } text (fieldPlace + byteLength field + 2) rest
      | _, _ => none
    | [] => none

/-- The directive that a text gives. -/
def ofText? (text : List Char) : Option Directive :=
  let trimmed := trim text
  let source := trimmed.takeWhile fun c => c != '=' && c != '['
  let rest := trimmed.dropWhile fun c => c != '=' && c != '['
  match source, rest with
  | [], '[' :: rest => withBrackets? {} text 1 rest
  | [], _ => none
  | c :: _, rest =>
    if !isSourceStart c then none
    else match rest with
      | [] => some (plainDirective text)
      | sign :: rest =>
        let place := byteLength source
        (takeBytes? place text).bind fun name =>
          let d : Directive := { source := some name }
          if sign = '=' then d.withLevelFrom? text (place + 1)
          else d.withBrackets? text (place + 1) rest

/-- The directive decides on events. One with a span or a value is about spans only. -/
def concernsEvents (d : Directive) : Bool := d.span.isNone && d.field.all (·.value.isNone)

/-- The directive decides on events from a source with such fields. -/
def fits (d : Directive) (source : String) (fields : List String) : Bool :=
  d.concernsEvents && d.source.all (·.isPrefixOf source.toList) &&
    d.field.all fun f => fields.contains (String.ofList f.name)

/-- How specific a directive is: first a longer source counts, then a field. -/
def weight (d : Directive) : Nat × Nat :=
  (d.source.elim 0 fun s => byteLength s + 1, d.field.elim 0 fun _ => 1)

/-- The name of the field, if there is one. -/
def fieldName (d : Directive) : List Char := d.field.elim [] Field.name

/-- Of two directives that fit an event, the second decides. -/
def yieldsTo (a b : Directive) : Bool :=
  a.weight.1 < b.weight.1 || a.weight.1 == b.weight.1 &&
    (a.weight.2 < b.weight.2 || a.weight.2 == b.weight.2 &&
      !b.fieldName.lex a.fieldName fun c d => c.toNat < d.toNat)

end Directive

end Snowflake.LogFilter
