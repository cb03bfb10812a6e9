import Snowflake.Layout
import Snowflake.Text.Blank

/-!
# The environment

Named variables, and the layout that two of them describe.

**Variables** hold a text or something that is not a text. Where a text is asked for, a variable
without one counts as unset.

**Layout.** A width is an unsigned numeral with blanks on either side, or a fixed default where
its variable is unset. The node width is read first; if its variable is malformed the other one
is not asked for. Main definition: `Layout.ofLookup`.
-/

namespace Snowflake

/-- What a variable holds. -/
inductive Setting where
  | text (value : String)
  /-- Bytes that are not a text. -/
  | bytes
deriving DecidableEq

/-- The variables of a process. -/
structure Environment where
  settings : List (String × Setting) := []
deriving DecidableEq

namespace Environment

def get? (e : Environment) (name : String) : Option Setting := e.settings.lookup name

/-- The text of a variable; one that holds no text counts as unset. -/
def text? (e : Environment) (name : String) : Option String :=
  match e.get? name with
  | some (.text value) => some value
  | _ => none

def unset (e : Environment) (name : String) : Environment :=
  ⟨e.settings.filter fun v => v.1 != name⟩

def set (e : Environment) (name : String) (value : Setting) : Environment :=
  ⟨(name, value) :: (e.unset name).settings⟩

end Environment

namespace Layout

open Text

/-- The variable that holds the width of the node id. -/
def nodeBitsVariable : String := "SPINFLAKE_NODE_ID_BITS"

/-- The variable that holds the width of the sequence. -/
def sequenceBitsVariable : String := "SPINFLAKE_SEQUENCE_BITS"

/-- The width that a text holds: an unsigned numeral with blanks on either side. -/
def width? (value : String) : Option UInt32 :=
  (unsigned? UInt32.size (trim value.toList)).map UInt32.ofNat

/-- The width that a variable holds, or the default if it is unset. -/
def readWidth (name : String) (default : Nat) (value : Option String) : Except Error UInt32 :=
  match value with
  | none => .ok (UInt32.ofNat default)
  | some text =>
    match width? text with
    | some n => .ok n
    | none => .error (.invalidVariable name text)

/-- A layout looked up, with the names that were asked for, in order. -/
structure Lookup where
  asked : List String
  result : Except Error Layout

/-- The layout that the two variables describe. -/
def ofLookup (lookup : String → Option String) : Lookup :=
  match readWidth nodeBitsVariable standard.nodeBits (lookup nodeBitsVariable) with
  | .error e => ⟨[nodeBitsVariable], .error e⟩
  | .ok nodeBits =>
    let asked := [nodeBitsVariable, sequenceBitsVariable]
    match readWidth sequenceBitsVariable standard.sequenceBits (lookup sequenceBitsVariable) with
    | .error e => ⟨asked, .error e⟩
    | .ok sequenceBits => ⟨asked, ofWidths nodeBits sequenceBits⟩

/-- The layout that the environment describes. -/
def ofEnvironment (e : Environment) : Except Error Layout := (ofLookup e.text?).result

end Layout

end Snowflake
