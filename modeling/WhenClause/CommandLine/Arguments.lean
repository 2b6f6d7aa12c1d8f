/-
**Arguments of the command line.**

`Arguments.read` reads the arguments of the program: options that every command has, the name of a
command, and the operands and options of that command. Options may stand before or behind operands;
`--` ends them. An option with a value takes the next argument, unless that looks like an option, or
what is attached to it. No option may be given twice on one level; on both levels, the one behind
the command's name counts.
-/

import WhenClause.Platform

namespace WhenClause.CommandLine

/-! ### What arguments say -/

/-- What a command does. -/
inductive Command where
  | normalize (expression : String)
  | evaluate (expression : String) (assignments : List String) (contextFile : Option String)
      (explained : Bool)
  | negate (expression : String)
  | implies (stronger weaker : String)
  | equals (left right : String)
  | keys (expression : String)
  deriving DecidableEq, Repr

/-- A command with the options that every command has. -/
structure Invocation where
  facts : Facts
  limitsFile : Option String
  command : Command
  deriving DecidableEq, Repr

/-- What the arguments ask for. -/
inductive Request where
  | run (invocation : Invocation)
  | help
  | version
  | misuse
  deriving DecidableEq, Repr

/-- The facts of the choices for a platform; `auto` is the platform that the program runs on. -/
def factsOfChoice? (host : Platform) : String → Option Facts
  | "auto" => some (some host)
  | "mac" => some (some .mac)
  | "linux" => some (some .linux)
  | "windows" => some (some .windows)
  | "none" => some none
  | _ => none

/-! ### Options -/

/-- The names of the commands. -/
inductive CommandName where
  | normalize
  | evaluate
  | negate
  | implies
  | equals
  | keys
  deriving DecidableEq, Repr

def CommandName.ofText? : String → Option CommandName
  | "normalize" => some .normalize
  | "eval" => some .evaluate
  | "negate" => some .negate
  | "implies" => some .implies
  | "equals" => some .equals
  | "keys" => some .keys
  | _ => none

inductive OptionName where
  | platform
  | limits
  | context
  | explain
  | help
  | version
  deriving DecidableEq, Repr

/-- Whether an option is known on a level: before any command, or behind the name of one. -/
def OptionName.isKnown (command : Option CommandName) : OptionName → Bool
  | .platform | .limits | .help => true
  | .context | .explain => command == some .evaluate
  | .version => command.isNone

def OptionName.takesValue : OptionName → Bool
  | .platform | .limits | .context => true
  | .explain | .help | .version => false

/-- The option of a word behind two hyphens. -/
def OptionName.ofWord? (command : Option CommandName) (word : String) : Option OptionName :=
  let name :=
    match word with
    | "platform" => some platform
    | "limits" => some limits
    | "context" => some context
    | "explain" => some explain
    | "help" => some help
    | "version" => some version
    | _ => none
  name.filter (isKnown command)

/-- The option of a letter behind one hyphen. -/
def OptionName.ofLetter? (command : Option CommandName) (letter : Char) : Option OptionName :=
  let name :=
    match letter with
    | 'c' => some context
    | 'e' => some explain
    | 'h' => some help
    | 'V' => some version
    | _ => none
  name.filter (isKnown command)

/-! ### One level of arguments -/

/-- What has been read on a level: the options given, with their values, and the operands, the last
ones first. -/
structure Level where
  options : List (OptionName × String) := []
  operands : List String := []

/-- Why the reading of a level stops early. -/
inductive Stop where
  | help
  | version
  | misuse

namespace Level

/-- The value of an option. -/
def value? (level : Level) (name : OptionName) : Option String := level.options.lookup name

/-- Whether a value is accepted: a platform is one of the choices, a file name is not empty. -/
def accepts (host : Platform) (name : OptionName) (value : String) : Bool :=
  match name with
  | .platform => (factsOfChoice? host value).isSome
  | .limits | .context => !value.isEmpty
  | _ => true

/-- The level with an option and its value. -/
def give (host : Platform) (name : OptionName) (value : String) (level : Level) :
    Except Stop Level :=
  if (level.value? name).isSome || !accepts host name value then .error .misuse
  else .ok { level with options := (name, value) :: level.options }

/-- The level with an option that takes no value. -/
def raise (host : Platform) (name : OptionName) (level : Level) : Except Stop Level :=
  match name with
  | .help => .error .help
  | .version => .error .version
  | _ => give host name "" level

/-- Whether an argument looks like an option. -/
def looksLikeOption (argument : String) : Bool :=
  match argument.toList with
  | '-' :: _ :: _ => true
  | _ => false

/-- The level with an option that takes a value from the next argument, and the arguments behind. -/
def giveNext (host : Platform) (name : OptionName) (level : Level) (rest : List String) :
    Except Stop (Level × List String) :=
  match rest with
  | [] => .error .misuse
  | value :: rest =>
    if looksLikeOption value then .error .misuse
    else (give host name value level).map (·, rest)

/-- The level with the options of letters behind one hyphen, and the arguments behind. -/
def takeLetters (host : Platform) (command : Option CommandName) (rest : List String) :
    Level → List Char → Except Stop (Level × List String)
  | level, [] => .ok (level, rest)
  | level, letter :: letters =>
    match OptionName.ofLetter? command letter with
    | none => .error .misuse
    | some name =>
      if name.takesValue then
        match letters with
        | [] => giveNext host name level rest
        | '=' :: value => (give host name (String.ofList value) level).map (·, rest)
        | value => (give host name (String.ofList value) level).map (·, rest)
      else
        match raise host name level with
        | .error stop => .error stop
        | .ok level => takeLetters host command rest level letters

/-- The level with the option of a word behind two hyphens, and the arguments behind. -/
def takeWord (host : Platform) (command : Option CommandName) (rest : List String)
    (level : Level) (word : List Char) : Except Stop (Level × List String) :=
  let name := word.takeWhile (· != '=')
  let attached := word.drop name.length
  match OptionName.ofWord? command (String.ofList name), attached with
  | none, _ => .error .misuse
  | some name, [] =>
    if name.takesValue then giveNext host name level rest
    else (raise host name level).map (·, rest)
  | some name, _ :: value =>
    if name.takesValue then (give host name (String.ofList value) level).map (·, rest)
    else .error .misuse

end Level

/-! ### The two levels -/

/-- How many operands a command takes: at least, and at most where there is a bound. -/
def CommandName.operandCount : CommandName → Nat × Option Nat
  | .evaluate => (1, none)
  | .implies | .equals => (2, some 2)
  | .normalize | .negate | .keys => (1, some 1)

/-- The level with an operand of a command. -/
def Level.addOperand (command : CommandName) (operand : String) (level : Level) :
    Except Stop Level :=
  if command.operandCount.2.any (· ≤ level.operands.length) then .error .misuse
  else .ok { level with operands := operand :: level.operands }

/-- The options and operands of a command. `size` bounds the number of steps. -/
def readCommand (host : Platform) (command : CommandName) :
    Nat → Level → List String → Except Stop Level
  | 0, _, _ => .error .misuse
  | _, level, [] => .ok level
  | size + 1, level, argument :: rest => do
    match argument.toList with
    | ['-', '-'] => rest.foldlM (fun level operand => level.addOperand command operand) level
    | '-' :: '-' :: word =>
      let (level, rest) ← level.takeWord host (some command) rest word
      readCommand host command size level rest
    | '-' :: letter :: letters =>
      let (level, rest) ← level.takeLetters host (some command) rest (letter :: letters)
      readCommand host command size level rest
    | _ =>
      let level ← level.addOperand command argument
      readCommand host command size level rest

/-- The options before the name of a command, the name, and the arguments behind it. -/
def readGlobal (host : Platform) : Nat → Level → List String →
    Except Stop (Level × CommandName × List String)
  | 0, _, _ => .error .misuse
  | _, _, [] => .error .misuse
  | size + 1, level, argument :: rest => do
    match argument.toList with
    | ['-', '-'] => .error .misuse
    | '-' :: '-' :: word =>
      let (level, rest) ← level.takeWord host none rest word
      readGlobal host size level rest
    | '-' :: letter :: letters =>
      let (level, rest) ← level.takeLetters host none rest (letter :: letters)
      readGlobal host size level rest
    | _ =>
      match CommandName.ofText? argument with
      | some name => .ok (level, name, rest)
      | none =>
        if argument = "help" then
          match rest with
          | [] => .error .help
          | [topic] =>
            if topic = "help" ∨ (CommandName.ofText? topic).isSome then .error .help
            else .error .misuse
          | _ => .error .misuse
        else .error .misuse

/-- The command of a name with its operands and options. -/
def commandOf? (name : CommandName) (level : Level) : Option Command :=
  match name, level.operands.reverse with
  | .normalize, [expression] => some (.normalize expression)
  | .negate, [expression] => some (.negate expression)
  | .keys, [expression] => some (.keys expression)
  | .implies, [stronger, weaker] => some (.implies stronger weaker)
  | .equals, [left, right] => some (.equals left right)
  | .evaluate, expression :: assignments =>
    some (.evaluate expression assignments (level.value? .context)
      (level.value? .explain).isSome)
  | _, _ => none

/-- What the arguments say, or why reading them stopped. -/
def readInvocation (host : Platform) (arguments : List String) : Except Stop Invocation := do
  let size := arguments.length + 1
  let (outer, name, rest) ← readGlobal host size {} arguments
  let inner ← readCommand host name size {} rest
  let choice := (inner.value? .platform <|> outer.value? .platform).getD "none"
  match commandOf? name inner, factsOfChoice? host choice with
  | some command, some facts =>
    let limitsFile := inner.value? .limits <|> outer.value? .limits
    return { facts, limitsFile, command }
  | _, _ => throw .misuse

/-- What the arguments ask for. -/
def Request.ofArguments (host : Platform) (arguments : List String) : Request :=
  match readInvocation host arguments with
  | .ok invocation => .run invocation
  | .error .help => .help
  | .error .version => .version
  | .error .misuse => .misuse

end WhenClause.CommandLine
