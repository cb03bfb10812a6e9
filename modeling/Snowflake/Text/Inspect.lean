/-!
# Diagnostic forms of a value

A value is shown to an operator as a name with its fields, on one line or with one field a line.

**One line**: `Name { a: 1, b: 2 }`, `Name(1)`, `[1, 2]`. **Spread out**: each field or
item stands on a line of its own, indented by four spaces more than what holds it and followed
by a comma. A record that does not show all its fields ends in `..`.
-/

namespace Snowflake.Text

/-- The parts of a value that a diagnostic form shows. -/
inductive Inspect where
  /-- A number, a truth value, a quoted text or a bare name. -/
  | atom (text : String)
  /-- Named fields, all of them if `complete`. -/
  | record (name : String) (fields : List (String × Inspect)) (complete : Bool)
  | tuple (name : String) (items : List Inspect)
  | list (items : List Inspect)

namespace Inspect

mutual

/-- The form on one line. -/
def line : Inspect → String
  | .atom text => text
  | .record name fields complete =>
    name ++ " \x7b " ++ lineFields fields ++ (if complete then " \x7d" else ", .. \x7d")
  | .tuple name items => name ++ "(" ++ lineItems items ++ ")"
  | .list items => "[" ++ lineItems items ++ "]"

/-- Named fields on one line, with commas between them. -/
def lineFields : List (String × Inspect) → String
  | [] => ""
  | [(name, v)] => name ++ ": " ++ line v
  | (name, v) :: rest => name ++ ": " ++ line v ++ ", " ++ lineFields rest

/-- Items on one line, with commas between them. -/
def lineItems : List Inspect → String
  | [] => ""
  | [v] => line v
  | v :: rest => line v ++ ", " ++ lineItems rest

end

/-- The blanks before a line at a depth. -/
def indent (depth : Nat) : String := String.ofList (List.replicate (4 * depth) ' ')

mutual

/-- The form over several lines, for a value whose first line is already indented to `depth`. -/
def spread (depth : Nat) : Inspect → String
  | .atom text => text
  | .record name fields complete =>
    name ++ " \x7b\n" ++ spreadFields (depth + 1) fields ++
      (if complete then "" else indent (depth + 1) ++ "..\n") ++ indent depth ++ "\x7d"
  | .tuple name items => name ++ "(\n" ++ spreadItems (depth + 1) items ++ indent depth ++ ")"
  | .list [] => "[]"
  | .list (v :: rest) => "[\n" ++ spreadItems (depth + 1) (v :: rest) ++ indent depth ++ "]"

/-- Named fields, one a line. -/
def spreadFields (depth : Nat) : List (String × Inspect) → String
  | [] => ""
  | (name, v) :: rest =>
    indent depth ++ name ++ ": " ++ spread depth v ++ ",\n" ++ spreadFields depth rest

/-- Items, one a line. -/
def spreadItems (depth : Nat) : List Inspect → String
  | [] => ""
  | v :: rest => indent depth ++ spread depth v ++ ",\n" ++ spreadItems depth rest

end

/-- The form with one field a line. -/
def lines (v : Inspect) : String := v.spread 0

end Inspect

end Snowflake.Text
