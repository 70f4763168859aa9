/-!
# What a command takes

A command takes arguments in an order, and options that begin with two dashes and may stand
anywhere. An option is a flag, or takes a path or a number. A program with several commands is told
by its first word which of them is meant.

* `CommandSpec` and `ProgramSpec` say what a command and a program take.
* `OptionSpec.shown`, `ArgumentSpec.shown` are how a reader is told about them.
-/

namespace EventBatching.CommandLine

/-! ## Options and arguments -/

/-- What an option takes. -/
inductive Shape where
  /-- Nothing: the option is given or not. -/
  | flag
  /-- A path, which is not empty. -/
  | path
  /-- A number that a 64-bit word can hold. -/
  | number
  deriving Repr, DecidableEq

/-- How the value of an option or an argument is named in messages. -/
def placeholder (name : String) : String :=
  String.ofList (name.toList.map fun c => if c == '-' then '_' else c.toUpper)

/-- An option. -/
structure OptionSpec where
  /-- The name, without the dashes. -/
  name : String
  /-- What it takes. -/
  shape : Shape
  /-- What it is for. -/
  about : String
  /-- The number that counts if it is not given. -/
  standard : Option Nat := none
  deriving Repr, DecidableEq

namespace OptionSpec

/-- How an option is written, with a name for its value. -/
def shown (o : OptionSpec) : String :=
  match o.shape with
  | .flag => s!"--{o.name}"
  | _ => s!"--{o.name} <{placeholder o.name}>"

/-- What an option is for, with its standard. -/
def description (o : OptionSpec) : String :=
  match o.standard with
  | none => o.about
  | some n => s!"{o.about} [default: {n}]"

end OptionSpec

/-- An argument. -/
structure ArgumentSpec where
  /-- The name. -/
  name : String
  /-- Whether it must be given. -/
  required : Bool
  /-- What it is for. -/
  about : String
  deriving Repr, DecidableEq

/-- How an argument is written. -/
def ArgumentSpec.shown (a : ArgumentSpec) : String :=
  if a.required then s!"<{placeholder a.name}>" else s!"[{placeholder a.name}]"

/-! ## Commands -/

/-- A command. -/
structure CommandSpec where
  /-- The words that it is called by. -/
  call : String
  /-- What it does, in a line. -/
  about : String
  /-- What it does, at length. -/
  details : Option String := none
  /-- Its arguments, in their order. -/
  arguments : List ArgumentSpec := []
  /-- Its options. -/
  options : List OptionSpec := []
  deriving Repr, DecidableEq

namespace CommandSpec

/-- The option with a name. -/
def option? (c : CommandSpec) (name : String) : Option OptionSpec :=
  c.options.find? (·.name == name)

/-- The arguments that must be given. -/
def required (c : CommandSpec) : List ArgumentSpec := c.arguments.filter (·.required)

end CommandSpec

/-- A program with several commands. -/
structure ProgramSpec where
  /-- The word that it is called by. -/
  call : String
  /-- Its version. -/
  version : String
  /-- What it does, in a line. -/
  about : String
  /-- The commands by name. -/
  commands : List (String × CommandSpec)
  deriving Repr, DecidableEq

namespace ProgramSpec

/-- The name of the command that tells about the others. -/
def helpName : String := "help"

/-- What the command that tells about the others does. -/
def helpAbout : String := "Print this message or the help of the given subcommand(s)"

/-- Whether a word names a command. -/
def isCommand (p : ProgramSpec) (word : String) : Bool :=
  word == helpName || (p.commands.lookup word).isSome

end ProgramSpec

end EventBatching.CommandLine
