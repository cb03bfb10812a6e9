import Snowflake.Text.Inspect

/-!
# Interrupt flags

Flags by which one caller tells another to stop waiting, and the handles to them.

**Flags.** Each thread has one, lowered until somebody raises it; others are made on request.
A flag is sticky: once raised it stays raised until it is lowered.

**Handles** are numbered in the order in which they come up. A new handle has a flag of its own, a
clone shares the flag of the handle it is made from, and a thread's handles share the thread's
flag.
-/

namespace Snowflake

/-- Whose flag it is. -/
inductive Owner where
  | thread (number : Nat)
  /-- A flag made for a handle. -/
  | made (number : Nat)
  /-- A flag that nobody holds a handle to. -/
  | loose
deriving DecidableEq, Repr

/-- The flags that are raised. -/
structure Flags where
  isRaised : Owner → Bool := fun _ => false

namespace Flags

def set (f : Flags) (owner : Owner) (up : Bool) : Flags :=
  ⟨fun o => if o = owner then up else f.isRaised o⟩

def raise (f : Flags) (owner : Owner) : Flags := f.set owner true

/-- Lowers a flag, telling whether it was raised. -/
def lower (f : Flags) (owner : Owner) : Bool × Flags := (f.isRaised owner, f.set owner false)

@[simp] theorem isRaised_set (f : Flags) (owner o : Owner) (up : Bool) :
    (f.set owner up).isRaised o = if o = owner then up else f.isRaised o := rfl

end Flags

/-- The handles that exist, with the flags. -/
structure Interrupts where
  /-- The owner of the flag behind each handle. -/
  handles : List Owner := []
  /-- How many flags were made. -/
  made : Nat := 0
  flags : Flags := {}

namespace Interrupts

/-- What a caller does. -/
inductive Call where
  /-- A handle with a flag of its own. -/
  | new
  | clone (handle : Nat)
  /-- A handle to the flag of a thread. -/
  | current (thread : Nat)
  | interrupt (handle : Nat)
  | clear (handle : Nat)
  | isInterrupted (handle : Nat)
  | threadClear (thread : Nat)
  | threadIsInterrupted (thread : Nat)
deriving DecidableEq, Repr

/-- What a caller is told. -/
inductive Reply where
  | nothing
  /-- The number of a new handle. -/
  | handle (number : Nat)
  | flag (up : Bool)
deriving DecidableEq, Repr

/-- The state with one more handle. -/
def add (s : Interrupts) (owner : Owner) : Interrupts × Reply :=
  ({ s with handles := s.handles ++ [owner] }, .handle s.handles.length)

/-- Something done to the flag behind a handle; a handle that does not exist has none. -/
def onHandle (s : Interrupts) (handle : Nat) (act : Owner → Interrupts × Reply) :
    Interrupts × Reply :=
  match s.handles[handle]? with
  | some owner => act owner
  | none => (s, .nothing)

/-- Lowers a flag, telling whether it was raised. -/
def lower (s : Interrupts) (owner : Owner) : Interrupts × Reply :=
  let (was, flags) := s.flags.lower owner
  ({ s with flags }, .flag was)

def call (s : Interrupts) : Call → Interrupts × Reply
  | .new => { s with made := s.made + 1 }.add (.made s.made)
  | .clone handle => s.onHandle handle s.add
  | .current thread => s.add (.thread thread)
  | .interrupt handle =>
    s.onHandle handle fun owner => ({ s with flags := s.flags.raise owner }, .nothing)
  | .clear handle => s.onHandle handle s.lower
  | .isInterrupted handle => s.onHandle handle fun owner => (s, .flag (s.flags.isRaised owner))
  | .threadClear thread => s.lower (.thread thread)
  | .threadIsInterrupted thread => (s, .flag (s.flags.isRaised (.thread thread)))

/-- The calls one after the other, with what each was told. -/
def calls (s : Interrupts) : List Call → Interrupts × List Reply
  | [] => (s, [])
  | c :: cs =>
    let (s, reply) := s.call c
    let (s, replies) := s.calls cs
    (s, reply :: replies)

/-- The flags behind the handles, in the order of their numbers. -/
def readings (s : Interrupts) : List Bool := s.handles.map s.flags.isRaised

end Interrupts

/-- Something that a waiting caller asks whether to stop. -/
inductive Canceller where
  /-- Never says so. -/
  | never
  /-- Says so while a flag is raised. -/
  | flag (owner : Owner)
deriving DecidableEq, Repr

/-- The answer to a question. -/
def Canceller.isCancelled (flags : Flags) : Canceller → Bool
  | never => false
  | flag owner => flags.isRaised owner

/-- The diagnostic form of a handle whose flag is up or down. -/
def Flags.inspect (up : Bool) : Text.Inspect :=
  .record "InterruptHandle" [("flag", .atom (if up then "true" else "false"))] true

end Snowflake
