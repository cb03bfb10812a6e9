import Snowflake.Text.Alphanumeric
import Snowflake.Text.Blank

/-!
# Patterns

Which texts are patterns for the value of a field. A pattern is a regular expression: rows of
items with bars between them, where an item is a character, a dot, an edge such as `^`, an escape,
a class in brackets or a group in parentheses, and `?`, `*` or `+` repeats the item before it.

**Modes.** A group can begin with flags for itself, and flags in parentheses of their own hold to
the end of the group around them. Of the modes three matter here: bytes are matched and not code
points, letters of either case match, and blanks and comments are left out.

**Tables.** Patterns are matched without tables of characters. For code points, classes such as
`\d`, letters of either case and the edges of words would need one, so they are refused. For bytes
they mean ASCII. What could match a part of a character beyond ASCII is refused for bytes.

**Nesting.** A group, a class, a repetition, a row of several items, several rows with bars between
them, several items of a class and an operator of a class are each one deeper than the deepest of
their parts, and a pattern has a greatest depth.

**Braces.** A pattern stands in braces, so it has no closing one. An opening one, which would
begin a count, is refused except in a class or after a backslash.
-/

namespace Snowflake.LogFilter.Pattern

open Text

/-! ## Modes -/

/-- How the characters of a pattern are taken. -/
structure Mode where
  /-- Bytes are matched, not code points. -/
  bytes : Bool := false
  /-- Letters of either case match. -/
  anyCase : Bool := false
  /-- Blanks and comments are left out. -/
  spaced : Bool := false
deriving DecidableEq, Repr

namespace Mode

/-- The mode once a flag is set or cleared. -/
def set (m : Mode) (on : Bool) : Char → Mode
  | 'u' => { m with bytes := !on }
  | 'i' => { m with anyCase := on }
  | 'x' => { m with spaced := on }
  | _ => m

/-- The mode after flags: those before a minus sign are set, those after it cleared. -/
def withFlags (m : Mode) (flags : List Char) : Mode :=
  let m := (flags.takeWhile (· != '-')).foldl (fun m c => m.set true c) m
  (flags.dropWhile (· != '-')).foldl (fun m c => m.set false c) m

/-- The text after blanks and after comments, which go from a `#` to the end of the line. -/
def dropRemarks (inComment : Bool) : List Char → List Char
  | [] => []
  | c :: cs =>
    if inComment then dropRemarks (c != '\n') cs
    else if isBlank c then dropRemarks false cs
    else if c = '#' then dropRemarks true cs
    else c :: cs

/-- The text from the next character on that counts. -/
def skip (m : Mode) (cs : List Char) : List Char := if m.spaced then dropRemarks false cs else cs

/-- The text that decides whether a minus sign before it makes a range. Blanks and the mark of a
comment are left out, but the comment itself decides. -/
def ahead (m : Mode) (cs : List Char) : List Char :=
  if m.spaced then
    match trimStart cs with
    | '#' :: cs => trimStart cs
    | cs => cs
  else cs

end Mode

/-- Each flag stands at most once, and something follows the minus sign. -/
def areFlags (cs : List Char) : Bool :=
  cs.all (fun c => "imsUuRx-".toList.contains c) && decide cs.Nodup && cs.getLast? != some '-'

/-! ## Items -/

/-- What an escape or a character alone stands for. -/
inductive Item where
  | char (c : Char)
  /-- A character that is written as a byte. -/
  | byte (c : Char)
  /-- The digits, the blanks or the characters of words, or all others. -/
  | named (negated : Bool)
  /-- The beginning or the end of the text. -/
  | edge
  /-- The beginning or the end of a word. -/
  | wordEdge
deriving DecidableEq, Repr

namespace Item

/-- The character that the item stands for, if it is a single one. -/
def char? : Item → Option Char
  | char c | byte c => some c
  | _ => none

/-- The item may stand outside classes. -/
def isOutside (m : Mode) : Item → Bool
  | char _ => m.bytes || !m.anyCase
  | byte c => if m.bytes then c.toNat < 128 else !m.anyCase
  | named negated => m.bytes && !negated
  | edge => true
  | wordEdge => m.bytes

/-- The item may stand in a class. -/
def isInside (m : Mode) : Item → Bool
  | char c | byte c => if m.bytes then c.toNat < 128 else !m.anyCase
  | named negated => m.bytes && !negated
  | edge | wordEdge => false

end Item

/-- The value of a hexadecimal digit. -/
def hexDigit? (c : Char) : Option Nat :=
  if c.isDigit then some (c.toNat - '0'.toNat)
  else if 'a' ≤ c ∧ c ≤ 'f' then some (c.toNat - 'a'.toNat + 10)
  else if 'A' ≤ c ∧ c ≤ 'F' then some (c.toNat - 'A'.toNat + 10)
  else none

/-- The character with a code of so many hexadecimal digits, and the text after it. -/
def hexChar? (m : Mode) : Nat → Nat → List Char → Option (Char × List Char)
  | 0, code, cs => if code.isValidChar then some (Char.ofNat code, cs) else none
  | places + 1, code, cs =>
    match m.skip cs with
    | [] => none
    | c :: cs => (hexDigit? c).bind fun d => hexChar? m places (16 * code + d) cs

/-- The item that the text after a backslash begins with, and the text after it. -/
def escape? (m : Mode) : List Char → Option (Item × List Char)
  | [] => none
  | c :: cs =>
    match c with
    | 'x' => (hexChar? m 2 0 cs).map fun (c, cs) => (.byte c, cs)
    | 'u' => (hexChar? m 4 0 cs).map fun (c, cs) => (.char c, cs)
    | 'U' => (hexChar? m 8 0 cs).map fun (c, cs) => (.char c, cs)
    | 'd' | 's' | 'w' => some (.named false, cs)
    | 'D' | 'S' | 'W' => some (.named true, cs)
    | 'a' => some (.char '\x07', cs)
    | 't' => some (.char '\t', cs)
    | 'n' => some (.char '\n', cs)
    | 'v' => some (.char '\x0b', cs)
    | 'f' => some (.char '\x0c', cs)
    | 'r' => some (.char '\r', cs)
    | 'A' | 'z' => some (.edge, cs)
    | 'b' | 'B' | '<' | '>' => some (.wordEdge, cs)
    | c => if c.toNat < 128 ∧ ¬c.isAlphanum then some (.char c, cs) else none

/-- The item that a text begins with, and the text after it. -/
def item? (m : Mode) : List Char → Option (Item × List Char)
  | [] => none
  | '\\' :: cs => escape? m cs
  | c :: cs => some (.char c, cs)

/-! ## Nesting -/

/-- How deep a pattern may be. -/
def greatestDepth : Nat := 250

/-- The items of a group or a class so far. -/
structure Level where
  /-- How many items stand in the last row. -/
  size : Nat := 0
  /-- The depth of the deepest of them. -/
  deepest : Nat := 0
  /-- The depth of what stands before the last bar or operator, if there is one. -/
  before : Option Nat := none
deriving DecidableEq, Repr

namespace Level

/-- The level with one more item. -/
def push (l : Level) (depth : Nat) : Level :=
  { l with size := l.size + 1, deepest := max l.deepest depth }

/-- The level once its last item is repeated and has become so deep. -/
def deepen (l : Level) (depth : Nat) : Level := { l with deepest := max l.deepest depth }

/-- The depth of the last row. A single item is no deeper for standing in a row. -/
def rowDepth (l : Level) : Nat := if l.size ≤ 1 then l.deepest else l.deepest + 1

/-- The depth of all that stands at the level. -/
def depth (l : Level) : Nat := l.before.elim l.rowDepth fun d => max d l.rowDepth + 1

/-- The level after a bar. Any number of bars makes it deeper only once. -/
def bar (l : Level) : Level := { before := some (max (l.before.getD 0) l.rowDepth) }

/-- The level after an operator of a class, whose left side is all that stands before it. -/
def operator (l : Level) : Level := { before := some l.depth }

end Level

/-! ## Classes -/

/-- The classes that have a name between colons. -/
def classNames : List String :=
  ["alnum", "alpha", "ascii", "blank", "cntrl", "digit", "graph", "lower", "print", "punct",
    "space", "upper", "word", "xdigit"]

/-- The named class whose opening bracket is read: whether it is negated, and the text after it. -/
def namedClass? : List Char → Option (Bool × List Char)
  | ':' :: cs =>
    let (negated, cs) := match cs with
      | '^' :: cs => (true, cs)
      | cs => (false, cs)
    match cs.dropWhile (· != ':') with
    | ':' :: ']' :: rest =>
      if classNames.contains (String.ofList (cs.takeWhile (· != ':'))) then some (negated, rest)
      else none
    | _ => none
  | _ => none

/-- The character that an item of a class stands for, if it is a single one and may stand there. -/
def bound? (m : Mode) (i : Item) : Option Char := if i.isInside m then i.char? else none

/-- The text after an item of a class or a range of characters. A minus sign before a closing
bracket or another minus sign makes no range. -/
def classItem? (m : Mode) (cs : List Char) : Option (List Char) :=
  (item? m cs).bind fun (first, rest) =>
    let alone := if first.isInside m then some (m.skip rest) else none
    match m.skip rest with
    | '-' :: cs =>
      match m.ahead cs with
      | '-' :: _ | ']' :: _ => alone
      | _ =>
        (item? m (m.skip cs)).bind fun (last, rest) =>
          match bound? m first, bound? m last with
          | some a, some b => if a.toNat ≤ b.toNat then some rest else none
          | _, _ => none
    | _ => alone

/-- How much of a class is read. -/
inductive Stage where
  /-- Nothing: a closing bracket would be an item. -/
  | opened
  /-- Minus signs only: another one would be an item. -/
  | dashes
  | filled
deriving DecidableEq, Repr

/-- The text after the caret of a negated class whose opening bracket is read, or after the
bracket. The bytes outside a class include parts of characters. -/
def afterCaret? (m : Mode) (cs : List Char) : Option (List Char) :=
  match m.skip cs with
  | '^' :: cs => if m.bytes then none else some cs
  | cs => some cs

/-- The depth of a class and the text after it, by recursion on fuel. The levels of the class and
of those around it are known so far. -/
def classEndWith (m : Mode) :
    Nat → Level → List Level → Stage → List Char → Option (Nat × List Char)
  | 0, _, _, _, _ => none
  | fuel + 1, level, outer, stage, cs =>
    let next := classEndWith m fuel (level.push 0) outer
    match m.skip cs with
    | [] => none
    | c :: cs =>
      if c = '-' ∧ stage ≠ .filled then
        if (Item.char c).isInside m then next .dashes cs else none
      else if c = ']' ∧ stage = .opened then
        if (Item.char c).isInside m then next .filled cs else none
      else if c = ']' then
        match outer with
        | [] => some (level.depth + 1, cs)
        | around :: outer => classEndWith m fuel (around.push (level.depth + 1)) outer .filled cs
      else if c = '[' then
        match namedClass? cs with
        | some (negated, cs) =>
          if (if m.bytes then negated else m.anyCase) then none else next .filled cs
        | none => (afterCaret? m cs).bind (classEndWith m fuel {} (level :: outer) .opened)
      else if (c = '&' ∨ c = '-' ∨ c = '~') ∧ cs.head? = some c then
        classEndWith m fuel level.operator outer .filled cs.tail
      else (classItem? m (c :: cs)).bind (next .filled)

/-- The depth of a class whose opening bracket is read, and the text after it. -/
def class? (m : Mode) (cs : List Char) : Option (Nat × List Char) :=
  (afterCaret? m cs).bind (classEndWith m (cs.length + 1) {} [] .opened)

/-! ## Groups -/

/-- The text may name a group. -/
def isGroupName : List Char → Bool
  | [] => false
  | c :: cs =>
    (c == '_' || isAlphabetic c) &&
      cs.all fun c => ['_', '.', '[', ']'].contains c || isAlphanumeric c

/-- What an opening parenthesis begins. -/
inductive Opening where
  /-- Flags for the rest of the group around them. -/
  | flags (m : Mode)
  | group (m : Mode) (name : Option (List Char))
deriving DecidableEq, Repr

/-- The group of a name, and the text after it. -/
def namedGroup? (m : Mode) (cs : List Char) : Option (Opening × List Char) :=
  let name := cs.takeWhile (· != '>')
  match cs.dropWhile (· != '>') with
  | _ :: rest => if isGroupName name then some (.group m name, rest) else none
  | [] => none

/-- What an opening parenthesis that is read begins, and the text after it. -/
def opening? (m : Mode) (cs : List Char) : Option (Opening × List Char) :=
  match m.skip cs with
  | '?' :: 'P' :: '<' :: cs | '?' :: '<' :: cs => namedGroup? m cs
  | '?' :: cs =>
    let flags := cs.takeWhile fun c => c != ':' && c != ')'
    if areFlags flags then
      match cs.dropWhile fun c => c != ':' && c != ')' with
      | ':' :: rest => some (.group (m.withFlags flags) none, rest)
      | _ :: rest => if flags.isEmpty then none else some (.flags (m.withFlags flags), rest)
      | [] => none
    else none
  | cs => some (.group m none, cs)

/-! ## Patterns -/

/-- What is known in the middle of a pattern. -/
structure Scan where
  mode : Mode := {}
  level : Level := {}
  /-- The modes and the levels outside the open groups, from the inside out. -/
  outer : List (Mode × Level) := []
  /-- The names of the groups so far. -/
  names : List (List Char) := []
  /-- The depth of the item before, if it can be repeated. -/
  last : Option Nat := none
deriving DecidableEq, Repr

namespace Scan

/-- The scan after an item. -/
def push (s : Scan) (depth : Nat) : Scan :=
  { s with level := s.level.push depth, last := some depth }

/-- The scan after what an opening parenthesis begins. -/
def opened (s : Scan) : Opening → Option Scan
  | .flags mode => some { s with mode, level := s.level.push 0, last := none }
  | .group mode name =>
    if name.any s.names.contains then none
    else some { mode, outer := (s.mode, s.level) :: s.outer, names := name.toList ++ s.names }

/-- The scan after a closing parenthesis. -/
def closed (s : Scan) : Option Scan :=
  match s.outer with
  | [] => none
  | (mode, level) :: outer => some <| { s with mode, level, outer }.push (s.level.depth + 1)

/-- The scan after a bar. -/
def bar (s : Scan) : Scan := { s with level := s.level.bar, last := none }

/-- The scan after a sign that repeats the item before. -/
def repeated (s : Scan) : Option Scan :=
  s.last.map fun d => { s with level := s.level.deepen (d + 1), last := some (d + 1) }

end Scan

/-- The text after a question mark, if it begins with one. Right after a sign of repetition, a
question mark belongs to the sign. -/
def dropQuestion : List Char → List Char
  | '?' :: cs => cs
  | cs => cs

/-- The depth of the whole pattern whose rest is given, by recursion on fuel. -/
def depthWith? : Nat → Scan → List Char → Option Nat
  | 0, _, _ => none
  | fuel + 1, s, cs =>
    match s.mode.skip cs with
    | [] => if s.outer.isEmpty then some s.level.depth else none
    | '(' :: cs =>
      (opening? s.mode cs).bind fun (opening, cs) =>
        (s.opened opening).bind fun s => depthWith? fuel s cs
    | ')' :: cs => s.closed.bind fun s => depthWith? fuel s cs
    | '|' :: cs => depthWith? fuel s.bar cs
    | '?' :: cs | '*' :: cs | '+' :: cs =>
      s.repeated.bind fun s => depthWith? fuel s (dropQuestion cs)
    | '\x7b' :: _ => none
    | '[' :: cs => (class? s.mode cs).bind fun (depth, cs) => depthWith? fuel (s.push depth) cs
    | '.' :: cs => if s.mode.bytes then none else depthWith? fuel (s.push 0) cs
    | '^' :: cs | '$' :: cs => depthWith? fuel (s.push 0) cs
    | cs =>
      (item? s.mode cs).bind fun (i, cs) =>
        if i.isOutside s.mode then depthWith? fuel (s.push 0) cs else none

/-- The depth of a well-formed pattern. Every step of the scan takes a character, so the length is
fuel enough. -/
def depth? (cs : List Char) : Option Nat := depthWith? (cs.length + 1) {} cs

/-- The text is a pattern. -/
def isPattern (cs : List Char) : Bool := (depth? cs).any (· ≤ greatestDepth)

end Snowflake.LogFilter.Pattern
