import Snowflake.Environment
import Snowflake.Event
import Snowflake.LogFilter.Directive

/-!
# Log filters

Which events are written. A filter is a list of directives, separated by commas. Of the directives
that fit an event, the most specific one decides, and of two for the same source and field the one
given later.

**Defaults.** Without a filter, or with one that is not well formed, warnings are written; with an
empty one, only errors.
-/

namespace Snowflake

structure LogFilter where
  directives : List LogFilter.Directive
deriving DecidableEq, Repr

namespace LogFilter

/-- The filter that lets events of a level through, and more pressing ones. -/
def atLevel (l : Level) : LogFilter := ⟨[{ rank := l.rank }]⟩

/-- The texts between commas that are not empty. -/
def splitCommas (cs : List Char) : List (List Char) :=
  (cs.splitOn ',').filter fun part => !part.isEmpty

/-- The filter that a text gives. -/
def parse? (text : String) : Option LogFilter :=
  ((splitCommas text.toList).mapM Directive.ofText?).map fun ds =>
    if ds.isEmpty then atLevel .error else ⟨ds⟩

/-- The variable that holds the filter. -/
def variableName : String := "RUST_LOG"

/-- The filter that the environment gives. -/
def ofEnvironment (e : Environment) : LogFilter :=
  ((e.text? variableName).bind parse?).getD (atLevel .warn)

/-- The directive that decides on events from a source with such fields. -/
def deciding? (f : LogFilter) (source : String) (fields : List String) : Option Directive :=
  (f.directives.filter (·.fits source fields)).foldl
    (fun best d => some (best.elim d fun b => if b.yieldsTo d then d else b)) none

/-- Events of a level from a source with such fields are written. -/
def allows (f : LogFilter) (level : Level) (source : String) (fields : List String) : Bool :=
  (f.deciding? source fields).any fun d => level.rank ≤ d.rank

end LogFilter

end Snowflake
