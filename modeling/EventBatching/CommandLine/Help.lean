import EventBatching.CommandLine.Spec

/-!
# Help

What a reader is told who asks for help. A command that has more to say than a line has a short and
a long form of it; all others have one form. Options and arguments are listed with what they are
for: on one line each, in two columns, as long as that fits, and else on two lines.

* `CommandSpec.help` and `ProgramSpec.help` are the texts.
-/

namespace EventBatching.CommandLine

/-! ## Lists -/

/-- A label and what is said about it. -/
abbrev Row := String × String

/-- How rows are laid out. -/
inductive Layout where
  /-- In two columns. -/
  | columns
  /-- On two lines each. -/
  | stacked
  /-- On two lines each, with an empty line between rows. -/
  | spaced
  deriving Repr, DecidableEq

/-- The width of a line. -/
def lineWidth : Nat := 100

/-- So many blanks. -/
def blanks (n : Nat) : String := String.ofList (List.replicate n ' ')

/-- A text filled up with blanks to a width. -/
def padTo (width : Nat) (s : String) : String := s ++ blanks (width - s.length)

/-- The width of the widest label. -/
def labelWidth (rows : List Row) : Nat := (rows.map (·.1.length)).foldl max 0

/-- Where the second column begins. -/
def secondColumn (rows : List Row) : Nat := labelWidth rows + 2

/-- Whether rows fit into two columns: the labels do not take more than two fifths of a line, or
what is said about them fits into the rest. -/
def fitsColumns (rows : List Row) : Bool :=
  secondColumn rows * 5 ≤ lineWidth * 2 ||
    rows.all fun (_, text) => text.length ≤ lineWidth - secondColumn rows

/-- The lines of a row. -/
def rowLines (layout : Layout) (second : Nat) : Row → String
  | (label, text) =>
    match layout with
    | .columns => padTo second label ++ text ++ "\n"
    | _ => label ++ "\n" ++ blanks 10 ++ text ++ "\n"

/-- The lines of rows. -/
def listing (layout : Layout) (rows : List Row) : String :=
  (match layout with
    | .spaced => "\n"
    | _ => "").intercalate (rows.map (rowLines layout (secondColumn rows)))

/-- Rows below a title; nothing if there are none. -/
def section? (title : String) (layout : Layout) (rows : List Row) : Option String :=
  if rows.isEmpty then none else some (title ++ ":\n" ++ listing layout rows)

/-- The layout of rows in the long or the short form. -/
def layoutOf (long : Bool) (rows : List Row) : Layout :=
  if long then .spaced else if fitsColumns rows then .columns else .stacked

/-- Parts of a text with an empty line between them. -/
def paragraphs (parts : List String) : String := "\n".intercalate parts

/-! ## Commands -/

/-- The row of an argument. -/
def ArgumentSpec.row (a : ArgumentSpec) : Row := (s!"  {a.shown}", a.about)

/-- The row of an option. -/
def OptionSpec.row (o : OptionSpec) : Row := (s!"      {o.shown}", o.description)

/-- The label of the option that asks for help. -/
def helpLabel : String := "  -h, --help"

/-- The label of the option that asks for the version. -/
def versionLabel : String := "  -V, --version"

namespace CommandSpec

/-- How a command is called. -/
def usage (c : CommandSpec) : String :=
  " ".intercalate
    (c.call :: (if c.options.isEmpty then [] else ["[OPTIONS]"]) ++ c.arguments.map (·.shown))

/-- The row of the option that asks for help. -/
def helpRow (c : CommandSpec) (long : Bool) : Row :=
  (helpLabel,
    if c.details.isNone then "Print help"
    else if long then "Print help (see a summary with '-h')"
    else "Print help (see more with '--help')")

/-- The help of a command, in the long or the short form. -/
def help (c : CommandSpec) (long : Bool) : String :=
  let long := long && c.details.isSome
  let arguments := c.arguments.map (·.row)
  let options := c.options.map (·.row) ++ [c.helpRow long]
  let about := if long then c.details.getD c.about else c.about
  paragraphs ([about ++ "\n", s!"Usage: {c.usage}\n"] ++
    (section? "Arguments" (layoutOf long arguments) arguments).toList ++
    (section? "Options" (layoutOf long options) options).toList)

end CommandSpec

/-! ## Programs -/

namespace ProgramSpec

/-- The rows of the commands. -/
def commandRows (p : ProgramSpec) : List Row :=
  p.commands.map (fun (name, c) => (s!"  {name}", c.about)) ++ [(s!"  {helpName}", helpAbout)]

/-- The rows of the options of a program itself. -/
def optionRows : List Row := [(helpLabel, "Print help"), (versionLabel, "Print version")]

/-- How a program is called. -/
def usage (p : ProgramSpec) : String := s!"{p.call} <COMMAND>"

/-- The help of a program. -/
def help (p : ProgramSpec) : String :=
  paragraphs ([p.about ++ "\n", s!"Usage: {p.usage}\n"] ++
    (section? "Commands" .columns p.commandRows).toList ++
    (section? "Options" .columns optionRows).toList)

/-- The help of the command that tells about the others. -/
def helpOfHelp (p : ProgramSpec) : String :=
  paragraphs ([helpAbout ++ "\n", s!"Usage: {p.call} {helpName} [COMMAND]...\n"] ++
    (section? "Arguments" .columns [("  [COMMAND]...", "Print help for the subcommand(s)")]).toList)

/-- The line with the version of a program. -/
def versionLine (p : ProgramSpec) : String := s!"{p.call} {p.version}\n"

end ProgramSpec

end EventBatching.CommandLine
