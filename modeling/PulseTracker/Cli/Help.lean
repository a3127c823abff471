import PulseTracker.Cli.Command

/-!
# Help pages

A page names what a command does, how it is called, and its options with the
descriptions in one column.
-/

namespace PulseTracker.Cli

def programVersion : String := "0.1.0"

def versionText : String := programSpec.name ++ " " ++ programVersion ++ "\n"

def valueName (long : String) : String :=
  String.ofList (long.toList.map fun c => if c = '-' then '_' else c.toUpper)

structure HelpRow where
  /-- Place among the rows, and a key for rows of the same place. -/
  order : Nat × String
  term : String
  about : String
  deriving DecidableEq, Repr

namespace OptionSpec

def usage (option : OptionSpec) : String :=
  "--" ++ option.long ++
    if option.accepts.isSome then " <" ++ valueName option.long ++ ">" else ""

def term (option : OptionSpec) : String :=
  (match option.short with
    | some short => "-" ++ short.toString ++ ", "
    | none => "    ") ++ option.usage

def description (option : OptionSpec) : String :=
  match option.fallback with
  | some value =>
      (if option.about.isEmpty then "" else option.about ++ " ") ++ "[default: " ++ value ++ "]"
  | none => option.about

def key (option : OptionSpec) : String :=
  match option.short with
  | some short => short.toString ++ "0"
  | none => option.long

end OptionSpec

def HelpRow.before (a b : HelpRow) : Bool :=
  a.order.1 < b.order.1 || (a.order.1 = b.order.1 && decide (a.order.2 ≤ b.order.2))

def optionRows (options : List OptionSpec) : List HelpRow :=
  options.zipIdx.map fun (option, place) =>
    { order := (place, option.key), term := option.term, about := option.description }

def lastPlace : Nat := 999

def helpRow : HelpRow :=
  { order := (lastPlace, "h0"), term := "-h, --help", about := "Print help" }

def versionRow : HelpRow :=
  { order := (lastPlace, "v1"), term := "-V, --version", about := "Print version" }

def rowsText (rows : List HelpRow) : String :=
  let width := rows.foldl (fun width row => max width row.term.length) 0
  String.join <| rows.map fun row =>
    "  " ++ row.term ++ String.ofList (List.replicate (width + 2 - row.term.length) ' ') ++
      row.about ++ "\n"

def sectionText (title : String) (rows : List HelpRow) : String :=
  if rows.isEmpty then "" else "\n" ++ title ++ ":\n" ++ rowsText rows

def CommandSpec.usageLine (spec : CommandSpec) : String :=
  "Usage: " ++
    (if spec.outer then spec.name ++ " [OPTIONS] <COMMAND>"
    else
      programSpec.name ++ " " ++ spec.name ++ " [OPTIONS]" ++
        String.join ((spec.options.filter (·.required)).map fun option => " " ++ option.usage) ++
        String.join (spec.operands.map fun operand => " <" ++ operand.1 ++ ">")) ++ "\n"

/-- The rows of a command's options; those of the program are merged in from the front. -/
def CommandSpec.rows (spec : CommandSpec) : List HelpRow :=
  let own := spec.options.take (spec.options.length - globalOptions.length)
  let rows :=
    if spec.outer then optionRows spec.options ++ [helpRow, versionRow]
    else optionRows own ++ optionRows globalOptions ++ [helpRow]
  rows.mergeSort HelpRow.before

def helpAbout : String := "Print this message or the help of the given subcommand(s)"

def CommandSpec.page (spec : CommandSpec) : String :=
  let commands : List HelpRow :=
    if spec.outer then
      (commandSpecs.map fun inner =>
        { order := (0, ""), term := inner.name, about := inner.about }) ++
        [{ order := (0, ""), term := "help", about := helpAbout }]
    else []
  let operands : List HelpRow := spec.operands.map fun operand =>
    { order := (0, ""), term := "<" ++ operand.1 ++ ">", about := operand.2 }
  spec.about ++ "\n\n" ++ spec.usageLine ++ sectionText "Commands" commands ++
    sectionText "Arguments" operands ++ sectionText "Options" spec.rows

def helpPage : String :=
  helpAbout ++ "\n\nUsage: " ++ programSpec.name ++ " help [COMMAND]...\n" ++
    sectionText "Arguments"
      [{ order := (0, "")
         term := "[COMMAND]..."
         about := "Print help for the subcommand(s)" }]

def helpText : Option String → String
  | none => programSpec.page
  | some name =>
      match commandSpec? name with
      | some spec => spec.page
      | none => helpPage

end PulseTracker.Cli
