import Snowflake.Command.Config

/-!
# The command line

How the words of a command line and the environment give the arguments of a command.

**Words.** `--name value` and `--name=value` set a flag by its name, `-c 5`, `-c5` and `-c=5` one
by its letter. After `--` every word is taken as it stands. A word that starts with a hyphen is
never the value of a flag, except that a number is, where ids may follow.

**Scopes.** The words up to the name of a command belong to the program, those after it to the
command. The four flags of the program may stand in either scope, once in each.

**Sources.** A flag of the command's scope wins over one of the program's scope, a flag over its
variable, and a variable over the default. Whatever wins, each scope that is not given a flag
checks the flag's variable.

**Order of faults.** A value is checked when the next flag or the end of the scope is reached,
and the scope of the command is finished before the scope of the program.
-/

namespace Snowflake

/-- Why a command line is not carried out. -/
inductive Refusal where
  /-- The user asked for help. -/
  | help
  /-- The user asked for the version. -/
  | version
  /-- Nothing was given at all, so help is shown instead. -/
  | helpInstead
  | missingCommand
  | unknownCommand
  /-- No ids to decode. -/
  | missingIds
  | unknownArgument
  /-- A flag was given twice in one scope. -/
  | repeatedFlag
  /-- A flag was given without its value. -/
  | missingValue
  /-- A value was given where none is taken. -/
  | unneededValue
  /-- A value is not a number of the right type. -/
  | badValue
  /-- A variable holds no text. -/
  | notText
deriving DecidableEq, Repr

/-- What can be set by name. -/
inductive Flag where
  | nodeBits
  | sequenceBits
  | nodeId
  | offset
  | count
  | threads
deriving DecidableEq, Repr

namespace Flag

open Text

/-- The name after the two hyphens. -/
def name : Flag → String
  | nodeBits => "node-id-bits"
  | sequenceBits => "sequence-bits"
  | nodeId => "node-id"
  | offset => "offset-ms"
  | count => "count"
  | threads => "threads"

/-- The letter after a single hyphen. -/
def letter? : Flag → Option Char
  | count => some 'c'
  | threads => some 't'
  | _ => none

/-- The variable that stands in for the flag. -/
def variableName? : Flag → Option String
  | nodeBits => some Layout.nodeBitsVariable
  | sequenceBits => some Layout.sequenceBitsVariable
  | nodeId => some nodeIdVariable
  | offset => some offsetVariable
  | _ => none

/-- The number that a text gives, if the flag takes it. -/
def read? (f : Flag) (text : List Char) : Option Int :=
  match f with
  | nodeBits | sequenceBits => (integer? text).filter fun n => 0 ≤ n ∧ n < UInt32.size
  | nodeId | offset => (integer? text).filter fun n => Word.InRange n
  | count | threads => (unsigned? UInt64.size text).map Int.ofNat

/-- The value of a flag that is not given. -/
def default : Flag → Int
  | nodeBits => 10
  | sequenceBits => 12
  | nodeId => 0
  | offset => defaultOffset.toInt
  | count => 1
  | threads => 1

/-- The flags that may stand in either scope. -/
def shared : List Flag := [nodeBits, sequenceBits, nodeId, offset]

end Flag

/-- Where a word stands. -/
inductive Scope where
  | program
  | generate
  | decode
  | layout
deriving DecidableEq, Repr

namespace Scope

/-- The flags that a scope knows. -/
def flags : Scope → List Flag
  | generate => Flag.shared ++ [.count, .threads]
  | _ => Flag.shared

/-- The scope that the name of a command opens. -/
def ofName? : List Char → Option Scope
  | ['g', 'e', 'n', 'e', 'r', 'a', 't', 'e'] => some generate
  | ['d', 'e', 'c', 'o', 'd', 'e'] => some decode
  | ['l', 'a', 'y', 'o', 'u', 't'] => some layout
  | _ => none

/-- The flag with a name. -/
def named? (s : Scope) (name : List Char) : Option Flag :=
  s.flags.find? fun f => f.name.toList == name

/-- The flag with a letter. -/
def lettered? (s : Scope) (letter : Char) : Option Flag :=
  s.flags.find? fun f => f.letter? == some letter

end Scope

/-! ## Words -/

/-- The shape of a word. -/
inductive Shape where
  /-- Two hyphens and nothing else. -/
  | escape
  /-- Two hyphens, a name, and a value after an equals sign. -/
  | long (name : List Char) (value : Option (List Char))
  /-- One hyphen, a letter, and more. -/
  | short (letter : Char) (rest : List Char)
  | plain
deriving DecidableEq, Repr

/-- The shape of a word. A single hyphen is plain. -/
def Shape.of : List Char → Shape
  | ['-', '-'] => escape
  | '-' :: '-' :: rest =>
    long (rest.takeWhile (· != '=')) (rest.dropWhile (· != '=')).tail?
  | '-' :: letter :: rest => short letter rest
  | _ => plain

/-- Digits with at most one point and at most one exponent mark: the point is not first and comes
before the mark, the mark is neither first nor last. -/
def looksNumeric (first point mark : Bool) : List Char → Bool
  | [] => true
  | c :: rest =>
    if c.isDigit then looksNumeric false point mark rest
    else if c = '.' then !first && !point && !mark && looksNumeric false true mark rest
    else if c = 'e' ∨ c = 'E' then
      !first && !mark && !rest.isEmpty && looksNumeric false point true rest
    else false

/-! ## One scope -/

/-- What was read but not yet checked. -/
inductive Pending where
  | nothing
  /-- A flag, with its value if that has come. -/
  | flag (f : Flag) (value : Option (List Char))
  | ids (texts : List (List Char))
deriving DecidableEq

/-- What a scope has given so far. -/
structure Given where
  values : List (Flag × Int) := []
  ids : List Int64 := []
  pending : Pending := .nothing
deriving DecidableEq

namespace Given

/-- Sets a flag that was not set before. -/
def assign (g : Given) (f : Flag) (text : List Char) : Except Refusal Given :=
  if (g.values.lookup f).isSome then .error .repeatedFlag
  else match f.read? text with
    | some n => .ok { g with values := g.values ++ [(f, n)] }
    | none => .error .badValue

/-- Checks what is pending. -/
def settle (g : Given) : Except Refusal Given :=
  match g.pending with
  | .nothing => .ok g
  | .flag _ none => .error .missingValue
  | .flag f (some text) => { g with pending := .nothing }.assign f text
  | .ids texts =>
    match texts.mapM Text.word? with
    | some ids => .ok { g with ids := g.ids ++ ids, pending := .nothing }
    | none => .error .badValue

/-- Sets a flag whose value is part of the same word. -/
def attach (g : Given) (f : Flag) (text : List Char) : Except Refusal Given :=
  g.settle.bind fun g => g.assign f text

/-- Waits for the value of a flag. -/
def await (g : Given) (f : Flag) : Except Refusal Given :=
  g.settle.map fun g => { g with pending := .flag f none }

/-- The next word is the value of a flag. -/
def isAwaiting (g : Given) : Bool :=
  match g.pending with
  | .flag _ none => true
  | _ => false

/-- Takes a word that names no flag and is no value. -/
def takePlain (g : Given) (scope : Scope) (escaped : Bool) (word : List Char) :
    Except Refusal Given :=
  match scope with
  | .decode =>
    match g.pending with
    | .ids texts => .ok { g with pending := .ids (texts ++ [word]) }
    | _ => g.settle.map fun g => { g with pending := .ids [word] }
  | .program =>
    if escaped && (word == "help".toList || (Scope.ofName? word).isSome) then
      .error .unknownArgument
    else .error .unknownCommand
  | _ => .error .unknownArgument

/-- Takes a word that may be the value of the flag before it. -/
def takeValue (g : Given) (scope : Scope) (word : List Char) : Except Refusal Given :=
  match g.pending with
  | .flag f none => .ok { g with pending := .flag f (some word) }
  | _ => g.takePlain scope false word

/-- Refuses for a reason that comes after what is pending. -/
def refuse {α : Type} (g : Given) (r : Refusal) : Except Refusal α :=
  g.settle.bind fun _ => .error r

/-- Takes a flag given by name. -/
def takeLong (g : Given) (scope : Scope) (name : List Char) (value : Option (List Char)) :
    Except Refusal Given :=
  match scope.named? name, value with
  | some f, some text => g.attach f text
  | some f, none => g.await f
  | none, _ =>
    if name = "help".toList then
      if value.isSome then .error .unneededValue else g.refuse .help
    else if name = "version".toList ∧ scope = .program then
      if value.isSome then .error .unneededValue else g.refuse .version
    else .error .unknownArgument

/-- Takes a flag given by letter, or a negative number where ids may stand. -/
def takeShort (g : Given) (scope : Scope) (letter : Char) (rest : List Char) :
    Except Refusal Given :=
  if scope = .decode ∧ looksNumeric true false false (letter :: rest) then
    g.takeValue scope ('-' :: letter :: rest)
  else match scope.lettered? letter, rest with
    | some f, [] => g.await f
    | some f, '=' :: text => g.attach f text
    | some f, text => g.attach f text
    | none, _ =>
      if letter = 'h' then g.refuse .help
      else if letter = 'V' ∧ scope = .program then g.refuse .version
      else .error .unknownArgument

/-- Takes a word that is not `--`. -/
def take (g : Given) (scope : Scope) (word : List Char) : Except Refusal Given :=
  match Shape.of word with
  | .long name value => g.takeLong scope name value
  | .short letter rest => g.takeShort scope letter rest
  | _ => g.takeValue scope word

/-- A flag that the scope was not given has a variable that it could take. -/
def checkVariable (g : Given) (env : Environment) (f : Flag) : Except Refusal Unit :=
  if (g.values.lookup f).isSome then .ok ()
  else match f.variableName?.bind env.get? with
    | none => .ok ()
    | some .bytes => .error .notText
    | some (.text value) => if (f.read? value.toList).isSome then .ok () else .error .badValue

/-- Checks what is pending and the variables of the flags that were not given. -/
def finish (g : Given) (env : Environment) : Except Refusal Given :=
  g.settle.bind fun g =>
    (Flag.shared.forM (g.checkVariable env)).map fun _ => g

end Given

/-! ## The whole line -/

/-- The words of a scope. In the scope of the program they end at the name of a command, and the
words after it are handed back. -/
def readScope (scope : Scope) (escaped : Bool) (g : Given) :
    List (List Char) → Except Refusal (Given × Option (Scope × List (List Char)))
  | [] => .ok (g, none)
  | word :: words =>
    if escaped then
      (g.takePlain scope true word).bind fun g => readScope scope true g words
    else if scope = .program ∧ !g.isAwaiting ∧ word = "help".toList then
      match words with
      | [] => .error .help
      | [name] =>
        .error (if name = "help".toList ∨ (Scope.ofName? name).isSome then .help
          else .unknownCommand)
      | _ => .error .unknownCommand
    else match (if scope = .program ∧ !g.isAwaiting then Scope.ofName? word else none) with
      | some command => .ok (g, some (command, words))
      | none =>
        if Shape.of word = .escape then readScope scope true g words
        else (g.take scope word).bind fun g => readScope scope false g words

/-- The value of a flag: from the scope of the command, the scope of the program, the variable,
or the default. -/
def Flag.resolve (f : Flag) (program command : Given) (env : Environment) : Int :=
  ((command.values.lookup f).or <| (program.values.lookup f).or <|
    (f.variableName?.bind env.text?).bind fun value => f.read? value.toList).getD f.default

namespace Arguments

/-- The arguments that both scopes give. -/
def ofScopes (scope : Scope) (program command : Given) (env : Environment) : Arguments :=
  let value (f : Flag) : Int := f.resolve program command env
  { nodeBits := UInt32.ofNat (value .nodeBits).toNat
    sequenceBits := UInt32.ofNat (value .sequenceBits).toNat
    nodeId := Int64.ofInt (value .nodeId)
    offset := Int64.ofInt (value .offset)
    command := match scope with
      | .generate =>
        .generate (UInt64.ofNat (value .count).toNat) (UInt64.ofNat (value .threads).toNat)
      | .decode => .decode command.ids
      | _ => .layout }

/-- The arguments that a command line gives. -/
def ofWords (words : List String) (env : Environment) : Except Refusal Arguments :=
  (readScope .program false {} (words.map String.toList)).bind fun (program, command) =>
    match command with
    | none => (program.finish env).bind fun program =>
      let given := !program.values.isEmpty ||
        Flag.shared.any fun f => (f.variableName?.bind env.get?).isSome
      .error (if given then .missingCommand else .helpInstead)
    | some (scope, words) => (readScope scope false {} words).bind fun (command, _) =>
      (command.finish env).bind fun command =>
        if scope = .decode ∧ command.ids = [] then .error .missingIds
        else (program.finish env).map fun program => ofScopes scope program command env

end Arguments

/-! ## Writing a command line -/

/-- How a flag is written: with its value in the same word or in the next one. -/
structure Written where
  flag : Flag
  value : Int
  attached : Bool
deriving DecidableEq, Repr

open Text in
/-- The words of a written flag. -/
def Written.words (w : Written) : List String :=
  if w.attached then ["--" ++ w.flag.name ++ "=" ++ integer w.value]
  else ["--" ++ w.flag.name, integer w.value]

open Text in
/-- The words of a command: its name and its own arguments. -/
def Command.words : Command → List String
  | generate count threads =>
    ["generate", "--count", natural count.toNat, "--threads", natural threads.toNat]
  | decode ids => "decode" :: ids.map word
  | layout => ["layout"]

end Snowflake
