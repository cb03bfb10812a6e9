import Snowflake.Environment
import Snowflake.Generator

/-!
# The process-wide layout

A process has one layout for all generators that are not given one. It is settled once, either by
installing it or, at the first use, from the environment as it is then; nothing changes it
afterwards. An invalid environment stops the caller and leaves the layout unsettled.
-/

namespace Snowflake

/-- The environment of a process and its layout, once that is settled. -/
structure Ambient where
  environment : Environment
  layout? : Option Layout := none
deriving DecidableEq

namespace Ambient

/-- The process-wide layout, settled from the environment if need be. -/
def layout (p : Ambient) : Ambient × List Event × Except Halt Layout :=
  match p.layout? with
  | some l => (p, [], .ok l)
  | none =>
    match Layout.ofEnvironment p.environment with
    | .ok l => ({ p with layout? := some l }, [.resolved l], .ok l)
    | .error e => (p, [], .error (.invalidLayout e))

/-- Settles the layout, or hands back the one that is settled already. -/
def install (p : Ambient) (l : Layout) : Ambient × Except Layout Unit :=
  match p.layout? with
  | some existing => (p, .error existing)
  | none => ({ p with layout? := some l }, .ok ())

/-- A generator with the process-wide layout, on a clock that reads `now`. -/
def create (p : Ambient) (nodeId offset now : Int64) :
    Ambient × List Event × Except Halt (Except Error Generator) :=
  match p.layout with
  | (p, events, .error halt) => (p, events, .error halt)
  | (p, events, .ok l) =>
    match Generator.create l nodeId offset now with
    | .ok (g, more) => (p, events ++ more, .ok (.ok g))
    | .error e => (p, events, .ok (.error e))

/-- What is done in a process. -/
inductive Step where
  | layout
  | install (l : Layout)
  /-- Reads the layout that the environment describes, without settling anything. -/
  | describe
  | create (nodeId offset now : Int64)
  | set (name : String) (value : Setting)
  | unset (name : String)
deriving DecidableEq

/-- What comes of a step. -/
inductive Reply where
  | layout (result : Except Halt Layout)
  | installed (result : Except Layout Unit)
  | described (result : Except Error Layout)
  | created (result : Except Halt (Except Error Generator))
  | nothing
deriving DecidableEq

def step (p : Ambient) : Step → Ambient × List Event × Reply
  | .layout => let (p, events, result) := p.layout; (p, events, .layout result)
  | .install l => let (p, result) := p.install l; (p, [], .installed result)
  | .describe => (p, [], .described (Layout.ofEnvironment p.environment))
  | .create nodeId offset now =>
    let (p, events, result) := p.create nodeId offset now; (p, events, .created result)
  | .set name value => ({ p with environment := p.environment.set name value }, [], .nothing)
  | .unset name => ({ p with environment := p.environment.unset name }, [], .nothing)

/-- The steps one after the other, with what came of each. -/
def steps (p : Ambient) : List Step → Ambient × List Event × List Reply
  | [] => (p, [], [])
  | s :: rest =>
    let (p, events, reply) := p.step s
    let (p, more, replies) := p.steps rest
    (p, events ++ more, reply :: replies)

end Ambient

end Snowflake
