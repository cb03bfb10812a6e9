import Snowflake.Environment
import Snowflake.Text.Alphanumeric

/-!
# Files of assignments

A file that sets variables before the program looks at them, one `NAME=value` after the other.

**Lines.** An assignment ends at the end of its line, unless a quote is still open there or the
line ends in a blank or a backslash. A comment starts at a `#` that begins a line or follows a
blank.

**Values** stand bare, in double quotes or in single quotes, and these may follow each other
directly. Outside single quotes a backslash escapes the next character, and a dollar sign with a
name, which may stand in braces, is replaced by a variable. A bare blank ends the value; only a
comment may follow it.

**Loading.** A variable that holds a text already keeps it. Loading stops at the first fault and
keeps what was set before.
-/

namespace Snowflake.Environment.File

open Text

/-! ## Lines -/

/-- Where a line stands between two of its characters. -/
inductive Position where
  | bare
  /-- After a bare backslash. -/
  | escaped
  /-- After a bare blank. -/
  | blank
  | single
  | singleEscaped
  | double
  | doubleEscaped
deriving DecidableEq, Repr

/-- The position after a character that opens no comment. -/
def Position.next (c : Char) : Position → Position
  | bare =>
    if isBlank c ∧ c ≠ '\n' ∧ c ≠ '\r' then blank else opening c
  | blank => opening c
  | escaped => bare
  | single => if c = '\\' then singleEscaped else if c = '\'' then bare else single
  | singleEscaped => single
  | double => if c = '\\' then doubleEscaped else if c = '"' then bare else double
  | doubleEscaped => double
where
  opening (c : Char) : Position :=
    if c = '\\' then escaped else if c = '"' then double else if c = '\'' then single else bare

/-- One physical line from a position on: its characters up to a comment, and the position at its
end, or nothing if a comment ended it. -/
def scanLine : Position → List Char → List Char × Option Position
  | p, [] => ([], some p)
  | p, c :: cs =>
    if p = .blank ∧ c = '#' then ([], none)
    else
      let (taken, last) := scanLine (p.next c) cs
      (c :: taken, last)

/-- The physical lines of a text, each with its line feed. -/
def physicalLines : List Char → List (List Char)
  | [] => []
  | c :: cs =>
    if c = '\n' then [c] :: physicalLines cs
    else match physicalLines cs with
      | [] => [[c]]
      | line :: lines => (c :: line) :: lines

/-- The line without its line feed, or carriage return and line feed, at the end. -/
def dropLineEnd (cs : List Char) : List Char :=
  match cs.reverse with
  | '\n' :: '\r' :: rest => rest.reverse
  | '\n' :: rest => rest.reverse
  | _ => cs

/-- The logical lines of physical lines. `before` is what an unfinished line holds so far, and
`position` where it stands. The last one is nothing if the text ends within a line. -/
def logicalLines (before : List Char) (position : Position) :
    List (List Char) → List (Option (List Char))
  | [] => if position = .bare then [] else [none]
  | line :: lines =>
    if (trimStart (before ++ line)).head? = some '#' then
      some [] :: logicalLines [] .bare lines
    else match scanLine position line with
      | (taken, none) => some (before ++ taken) :: logicalLines [] .bare lines
      | (_, some .bare) => some (dropLineEnd (before ++ line)) :: logicalLines [] .bare lines
      | (_, some position) => logicalLines (before ++ line) position lines

/-! ## Assignments -/

/-- A part of a value. -/
inductive Piece where
  | char (c : Char)
  /-- The text of a variable. -/
  | reference (name : List Char)
deriving DecidableEq, Repr

/-- What a value is in the middle of. -/
inductive Mode where
  | plain
  /-- After a backslash. -/
  | escaped
  /-- Within single quotes. -/
  | single
  /-- Within a name after a dollar sign. -/
  | name (soFar : List Char)
  /-- Within a name in braces after a dollar sign. -/
  | braced (soFar : List Char)
  /-- After the blank that ended the value. -/
  | ended
deriving DecidableEq, Repr

/-- The pieces of a value, if it is well formed. `double` tells whether a double quote is open. -/
def pieces (double : Bool) : Mode → List Char → Option (List Piece)
  | .braced _, [] | .single, [] => none
  | .name soFar, [] => if double then none else some [.reference soFar]
  | _, [] => if double then none else some []
  | .ended, c :: cs =>
    if c = ' ' ∨ c = '\t' then pieces double .ended cs else if c = '#' then some [] else none
  | .escaped, c :: cs =>
    if c = 'n' then (pieces double .plain cs).map (.char '\n' :: ·)
    else if c ∈ ['\\', '\'', '"', '$', ' '] then (pieces double .plain cs).map (.char c :: ·)
    else none
  | .single, c :: cs =>
    if c = '\'' then pieces double .plain cs else (pieces double .single cs).map (.char c :: ·)
  | .name soFar, c :: cs =>
    if isAlphanumeric c then pieces double (.name (soFar ++ [c])) cs
    else if c = '\x7b' ∧ soFar = [] then pieces double (.braced []) cs
    else if c = '$' then (pieces double (.name []) cs).map (.reference soFar :: ·)
    else (pieces double .plain cs).map fun ps => .reference soFar :: .char c :: ps
  | .braced soFar, c :: cs =>
    if c = '\x7d' then (pieces double .plain cs).map (.reference soFar :: ·)
    else pieces double (.braced (soFar ++ [c])) cs
  | .plain, c :: cs =>
    if c = '$' then pieces double (.name []) cs
    else if c = '\\' then pieces double .escaped cs
    else if c = '"' then pieces (!double) .plain cs
    else if double then (pieces double .plain cs).map (.char c :: ·)
    else if c = '\'' then pieces double .single cs
    else if c = ' ' ∨ c = '\t' then pieces double .ended cs
    else (pieces double .plain cs).map (.char c :: ·)

/-- A name and what is to be its value. -/
structure Assignment where
  name : String
  value : List Piece
deriving DecidableEq, Repr

/-- The character may begin a name. -/
def startsName (c : Char) : Bool := c.isAlpha || c == '_'

/-- The character may stand in a name. -/
def continuesName (c : Char) : Bool := c.isAlphanum || c == '_' || c == '.'

/-- The name that a text begins with, and the text after it and the blanks that follow. -/
def splitName? (cs : List Char) : Option (List Char × List Char) :=
  match cs with
  | c :: _ =>
    if startsName c then
      some (cs.takeWhile continuesName, trimStart (cs.dropWhile continuesName))
    else none
  | [] => none

/-- The assignment of a value that is still to be read. -/
def assign? (name value : List Char) : Option Assignment :=
  match trimStart value with
  | [] => some ⟨String.ofList name, []⟩
  | '#' :: _ => some ⟨String.ofList name, []⟩
  | cs => (pieces false .plain cs).map fun ps => ⟨String.ofList name, ps⟩

/-- The assignment of a logical line that is not empty: a name, an equals sign and a value, perhaps
after the word `export`. -/
def assignment? (line : List Char) : Option Assignment :=
  match splitName? line with
  | some (name, '=' :: value) => assign? name value
  | some (name, rest) =>
    if name = "export".toList then
      match splitName? rest with
      | some (name, '=' :: value) => assign? name value
      | _ => none
    else none
  | none => none

/-- What a logical line says: nothing, an assignment, or something wrong. -/
def readLine (line : List Char) : Option (Option Assignment) :=
  match trimStart (trimEnd line) with
  | [] => some none
  | '#' :: _ => some none
  | cs => (assignment? cs).map some

/-- The assignments of logical lines, up to the first fault. -/
def assignments : List (Option (List Char)) → List Assignment
  | [] => []
  | line :: lines =>
    match line.bind readLine with
    | none => []
    | some none => assignments lines
    | some (some a) => a :: assignments lines

/-- The assignments of a file, up to the first fault. A byte order mark at its beginning is
dropped. -/
def parse (text : String) : List Assignment :=
  let cs := match text.toList with
    | '\ufeff' :: cs => cs
    | cs => cs
  assignments (logicalLines [] .bare (physicalLines cs))

/-! ## Loading -/

/-- The text that a piece stands for; a variable without a text stands for nothing. -/
def Piece.resolve (e : Environment) : Piece → String
  | char c => String.ofList [c]
  | reference name => (e.text? (String.ofList name)).getD ""

/-- Sets the variable unless it holds a text already. -/
def Assignment.load (e : Environment) (a : Assignment) : Environment :=
  if (e.text? a.name).isSome then e
  else e.set a.name (.text (String.join (a.value.map (Piece.resolve e))))

/-- The environment with what a file adds to it. -/
def load (e : Environment) (text : String) : Environment := (parse text).foldl Assignment.load e

/-- The variables that loading a file depends on. -/
def names (text : String) : List String :=
  (parse text).flatMap fun a => a.name :: a.value.filterMap fun
    | .reference name => some (String.ofList name)
    | .char _ => none

end Snowflake.Environment.File
