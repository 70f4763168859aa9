import EventBatching.CommandLine.Help
import EventBatching.Number.Word
import EventBatching.Text.Similarity
import EventBatching.Text.Terminal

/-!
# Reading a command line

A command line is read word by word. A word that begins with a dash is an option; any other word is
the value of the option before it, if that still lacks one, or else the next argument. After two
dashes alone every word is an argument. The value of an option is looked at when the next option or
argument comes, or at the end.

* `CommandSpec.read` reads the words of a command.
* `ProgramSpec.read` reads the words of a program with several commands.
* `Stop.text` is what is said if there is nothing to perform; a refusal comes with a hint at how
  the command is called.
-/

namespace EventBatching.CommandLine

/-! ## Results -/

/-- What an option was given. -/
inductive Value where
  /-- A flag was set. -/
  | set
  /-- A path. -/
  | path (path : String)
  /-- A number. -/
  | number (n : Nat)
  deriving Repr, DecidableEq

/-- What a command was given. -/
structure Given where
  /-- Options by name. -/
  options : List (String × Value) := []
  /-- Arguments in their order. -/
  arguments : List String := []
  deriving Repr, DecidableEq

namespace Given

/-- Whether a flag is set. -/
def flag (g : Given) (name : String) : Bool := (g.options.lookup name).isSome

/-- The path that an option was given. -/
def path? (g : Given) (name : String) : Option String :=
  match g.options.lookup name with
  | some (.path path) => some path
  | _ => none

/-- The number that an option was given. -/
def number? (g : Given) (name : String) : Option Nat :=
  match g.options.lookup name with
  | some (.number n) => some n
  | _ => none

end Given

/-- Why a command line is refused. -/
inductive Refusal where
  /-- Nothing takes a word. -/
  | unexpected (word : String)
  /-- A word is not the name of a command. -/
  | unknownCommand (word : String)
  /-- A flag is given a value. -/
  | unexpectedValue (value shown : String)
  /-- An option lacks its value. -/
  | missingValue (shown : String)
  /-- An option is given twice. -/
  | repeated (shown : String)
  /-- The value of an option is no number. -/
  | invalidValue (value shown : String) (fault : Word.Fault)
  /-- Arguments are missing. -/
  | missingArguments (shown : List String)
  /-- Not even a command is given. -/
  | nothingGiven (help : String)
  deriving Repr, DecidableEq

namespace Refusal

/-- The part of a command line that a refusal repeats. -/
def word : Refusal → String
  | .unexpected word => word
  | .unknownCommand word => word
  | .unexpectedValue value _ => value
  | .invalidValue value _ _ => value
  | _ => ""

/-- Why a command line is refused, in words. What it repeats of the command line is given as it is
seen on a terminal. -/
def message (why : Refusal) (blanks : Terminal.Blanks) : String :=
  let seen := Terminal.plain blanks why.word
  match why with
  | .unexpected _ => s!"error: unexpected argument '{seen}' found"
  | .unknownCommand _ => s!"error: unrecognized subcommand '{seen}'"
  | .unexpectedValue _ shown =>
    s!"error: unexpected value '{seen}' for '{shown}' found; no more were expected"
  | .missingValue shown => s!"error: a value is required for '{shown}' but none was supplied"
  | .repeated shown => s!"error: the argument '{shown}' cannot be used multiple times"
  | .invalidValue _ shown fault =>
    s!"error: invalid value '{seen}' for '{shown}': {fault.message}"
  | .missingArguments shown =>
    "\n  ".intercalate ("error: the following required arguments were not provided:" :: shown)
  | .nothingGiven help => help

end Refusal

/-- What helps a reader whose command line is refused. -/
structure Hint where
  /-- An option that was likely meant. -/
  similar : Option String := none
  /-- How to call the command. -/
  usage : Option String := none
  deriving Repr, DecidableEq

/-- The lines of a hint. -/
def Hint.lines (h : Hint) : List String :=
  (h.similar.map fun shown => s!"  tip: a similar argument exists: '{shown}'").toList ++
    (h.usage.map fun usage => s!"Usage: {usage}").toList

/-- Where a reader finds out more. -/
def furtherHelp : String := "For more information, try '--help'."

/-- Why reading a command line ends without a command to perform. -/
inductive Stop where
  /-- The command line is refused. -/
  | refused (why : Refusal) (hint : Hint)
  /-- Help is asked for. -/
  | help (text : String)
  /-- The version is asked for. -/
  | version (text : String)
  deriving Repr, DecidableEq

namespace Stop

/-- What is said instead: what a refusal says has an empty line between its parts. -/
def text (stop : Stop) (blanks : Terminal.Blanks) : String :=
  match stop with
  | .refused (.nothingGiven overview) _ => overview
  | .refused why hint =>
    "\n\n".intercalate (why.message blanks :: hint.lines ++ [furtherHelp]) ++ "\n"
  | .help text => text
  | .version text => text

/-- What is printed, where blanks only interrupt the sequences for a terminal. -/
def printed (stop : Stop) : String := stop.text .interrupt

/-- Whether it is an error. -/
def isRefusal : Stop → Bool
  | .refused _ _ => true
  | _ => false

/-- The exit code of the program. -/
def exitCode (stop : Stop) : Nat := if stop.isRefusal then 2 else 0

end Stop

/-! ## Words -/

/-- The two dashes after which everything is an argument. -/
def dashes : String := "--"

/-- What a word looks like. -/
inductive Form where
  /-- The two dashes. -/
  | dashes
  /-- An option by its name, with a value behind an equals sign if there is one. -/
  | long (name : String) (value : Option String)
  /-- A letter behind a dash. -/
  | short (letter : Char)
  /-- Anything else. -/
  | plain
  deriving Repr, DecidableEq

/-- The name and the value around the first equals sign. -/
def splitValue (cs : List Char) : String × Option String :=
  match cs.span (· != '=') with
  | (name, []) => (String.ofList name, none)
  | (name, _ :: value) => (String.ofList name, some (String.ofList value))

/-- What a word looks like. -/
def Form.of (word : String) : Form :=
  match word.toList with
  | ['-', '-'] => .dashes
  | '-' :: '-' :: rest =>
    let (name, value) := splitValue rest
    .long name value
  | '-' :: letter :: _ => .short letter
  | _ => .plain

/-! ## Reading a command -/

/-- What was read so far. -/
structure Reading where
  /-- What was given and looked at. -/
  given : Given := {}
  /-- The option that was read last, and its value if that has come, before they are looked at. -/
  pending : Option (OptionSpec × Option String) := none
  /-- Whether the two dashes have come. -/
  trailing : Bool := false
  deriving Repr, DecidableEq

/-- The value of an option. -/
def OptionSpec.value (o : OptionSpec) (text : String) : Except Refusal Value :=
  match o.shape with
  | .flag => .error (.unexpectedValue text o.shown)
  | .path => if text.isEmpty then .error (.missingValue o.shown) else .ok (.path text)
  | .number =>
    match Word.parse text with
    | .ok n => .ok (.number n)
    | .error fault => .error (.invalidValue text o.shown fault)

namespace Reading

/-- Adds an option, unless it was there before. -/
def add (r : Reading) (o : OptionSpec) (value : Except Refusal Value) : Except Refusal Reading :=
  if r.given.flag o.name then .error (.repeated o.shown)
  else value.map fun v =>
    { r with given := { r.given with options := r.given.options ++ [(o.name, v)] } }

/-- Adds an argument. -/
def addArgument (r : Reading) (word : String) : Reading :=
  { r with given := { r.given with arguments := r.given.arguments ++ [word] } }

/-- Looks at the option that was read last. -/
def settle (r : Reading) : Except Refusal Reading :=
  match r.pending with
  | none => .ok r
  | some (o, none) => .error (.missingValue o.shown)
  | some (o, some text) => { r with pending := none }.add o (o.value text)

/-- Whether the option that was read last lacks its value. -/
def awaits (r : Reading) : Bool :=
  match r.pending with
  | some (_, none) => true
  | _ => false

/-- Gives the option that was read last its value. -/
def fill (r : Reading) (word : String) : Reading :=
  { r with pending := r.pending.map fun (o, _) => (o, some word) }

/-- The names of the options that were looked at. -/
def settledNames (r : Reading) : List String := r.given.options.map (·.1)

/-- The names of the options that were used, also if the value of the last one is no good. One that
was used twice counts as if it had not been used. -/
def usedNames (r : Reading) : List String :=
  match r.pending with
  | some (o, some _) =>
    if r.given.flag o.name then r.settledNames.filter (· != o.name)
    else r.settledNames ++ [o.name]
  | _ => r.settledNames

end Reading

namespace CommandSpec

/-! ### Refusing -/

/-- The name of the option that asks for help. -/
def helpOption : String := "help"

/-- How an option is written, by its name. -/
def shownOption (c : CommandSpec) (name : String) : String :=
  ((c.option? name).map (·.shown)).getD s!"--{name}"

/-- How a command is called with options that are given by their names. -/
def usageWith (c : CommandSpec) (names : List String) : String :=
  if names.isEmpty then c.usage
  else " ".intercalate (c.call :: names.map c.shownOption ++ c.required.map (·.shown))

/-- How to call the command, if it was called in another way. -/
def hint (c : CommandSpec) : Refusal → Hint
  | .invalidValue _ _ _ | .missingValue _ => {}
  | _ => { usage := some c.usage }

/-- Refuses a command line. -/
def refuse (c : CommandSpec) (why : Refusal) : Stop := .refused why (c.hint why)

/-- Refuses an option that the command does not know. An option with a similar name takes its place
in the hint. -/
def refuseUnknown (c : CommandSpec) (r : Reading) (name : String) : Stop :=
  let similar := Similarity.closest? name (c.options.map (·.name) ++ [helpOption])
  let added := similar.toList.filter (!r.usedNames.contains ·)
  .refused (.unexpected s!"--{name}")
    { similar := similar.map fun name => s!"--{name}"
      usage := some (c.usageWith (r.usedNames ++ added)) }

/-- Everything that the command takes of its own, as alternatives. -/
def alternatives (c : CommandSpec) : String :=
  let taken := c.arguments.map (placeholder ·.name) ++ c.options.map (·.shown)
  "<" ++ "|".intercalate taken ++ ">"

/-- Refuses the value of an option that takes none. Once an option has been looked at, the hint
names all that the command takes of its own. -/
def refuseValue (c : CommandSpec) (r : Reading) (name value : String) : Stop :=
  let shown := c.shownOption name
  let used :=
    if r.settledNames.isEmpty then [shown]
    else if (c.option? name).isSome then [c.alternatives]
    else [shown, c.alternatives]
  .refused (.unexpectedValue value shown) { usage := some (" ".intercalate (c.call :: used)) }

/-! ### Words -/

/-- Help, once the option that was read last has been looked at. -/
def askHelp (c : CommandSpec) (long : Bool) (r : Reading) : Except Stop Reading :=
  match r.settle with
  | .error why => .error (c.refuse why)
  | .ok _ => .error (.help (c.help long))

/-- Reads an option that the command knows, with its value if that is attached. -/
def readOption (c : CommandSpec) (r : Reading) (o : OptionSpec) (value : Option String) :
    Except Stop Reading :=
  match o.shape, value with
  | .flag, some text => .error (c.refuseValue r o.name text)
  | .flag, none => (r.settle.bind (·.add o (.ok .set))).mapError c.refuse
  | _, some text => (r.settle.bind (·.add o (o.value text))).mapError c.refuse
  | _, none => (r.settle.map fun r => { r with pending := some (o, none) }).mapError c.refuse

/-- Reads an option by its name. -/
def readLong (c : CommandSpec) (r : Reading) (name : String) (value : Option String) :
    Except Stop Reading :=
  match c.option? name with
  | some o => c.readOption r o value
  | none =>
    if name != helpOption then .error (c.refuseUnknown r name)
    else
      match value with
      | none => c.askHelp true r
      | some text => .error (c.refuseValue r name text)

/-- Reads an option of one letter. -/
def readShort (c : CommandSpec) (r : Reading) (letter : Char) : Except Stop Reading :=
  if letter == 'h' then c.askHelp false r
  else .error (c.refuse (.unexpected (String.ofList ['-', letter])))

/-- Reads an argument. -/
def readArgument (c : CommandSpec) (r : Reading) (word : String) : Except Stop Reading :=
  if r.given.arguments.length < c.arguments.length then
    (r.settle.map (·.addArgument word)).mapError c.refuse
  else .error (c.refuse (.unexpected word))

/-- Reads a word. -/
def readWord (c : CommandSpec) (r : Reading) (word : String) : Except Stop Reading :=
  if r.trailing then c.readArgument r word
  else
    match Form.of word with
    | .dashes => .ok { r with trailing := true }
    | .long name value => c.readLong r name value
    | .short letter => c.readShort r letter
    | .plain => if r.awaits then .ok (r.fill word) else c.readArgument r word

/-- Looks at what was read when there are no more words. -/
def conclude (c : CommandSpec) (r : Reading) : Except Stop Given :=
  match r.settle with
  | .error why => .error (c.refuse why)
  | .ok r =>
    let missing := c.required.drop r.given.arguments.length
    if missing.isEmpty then .ok r.given
    else .error (c.refuse (.missingArguments (missing.map (·.shown))))

/-- Reads the words of a command. -/
def read (c : CommandSpec) (words : List String) : Except Stop Given :=
  (words.foldlM (c.readWord) {}).bind c.conclude

end CommandSpec

/-! ## Reading the words of a program -/

namespace ProgramSpec

/-- Refuses a command line. -/
def refuse (p : ProgramSpec) (why : Refusal) : Stop := .refused why { usage := some p.usage }

/-- What a program says about commands by name. -/
def helpFor (p : ProgramSpec) : List String → Stop
  | [] => .help p.help
  | word :: rest =>
    if word == helpName then
      match rest with
      | [] => .help p.helpOfHelp
      | next :: _ => p.refuse (.unknownCommand next)
    else
      match p.commands.lookup word, rest with
      | none, _ => p.refuse (.unknownCommand word)
      | some c, [] => .help (c.help true)
      | some _, next :: _ => p.refuse (.unknownCommand next)

/-- An option of the program itself. -/
def readLong (p : ProgramSpec) (name : String) : Option String → Stop
  | none =>
    if name == "help" then .help p.help
    else if name == "version" then .version p.versionLine
    else p.refuse (.unexpected s!"--{name}")
  | some text =>
    p.refuse (if name == "help" || name == "version" then .unexpectedValue text s!"--{name}"
      else .unexpected s!"--{name}")

/-- An option of one letter of the program itself. -/
def readShort (p : ProgramSpec) (letter : Char) : Stop :=
  if letter == 'h' then .help p.help
  else if letter == 'V' then .version p.versionLine
  else p.refuse (.unexpected (String.ofList ['-', letter]))

/-- The words behind the two dashes. -/
def readTrailing (p : ProgramSpec) : List String → Stop
  | [] => p.refuse (.nothingGiven p.help)
  | word :: _ =>
    p.refuse (if p.isCommand word then .unexpected word else .unknownCommand word)

/-- Reads the words of a program: the name of the command, and what it was given. -/
def read (p : ProgramSpec) : List String → Except Stop (String × Given)
  | [] => .error (p.refuse (.nothingGiven p.help))
  | word :: rest =>
    if word == helpName then .error (p.helpFor rest)
    else
      match p.commands.lookup word with
      | some c => (c.read rest).map fun g => (word, g)
      | none =>
        match Form.of word with
        | .dashes => .error (p.readTrailing rest)
        | .long name value => .error (p.readLong name value)
        | .short letter => .error (p.readShort letter)
        | .plain => .error (p.refuse (.unknownCommand word))

end ProgramSpec

end EventBatching.CommandLine
