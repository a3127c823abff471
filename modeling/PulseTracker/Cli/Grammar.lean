/-!
# Arguments

What may stand on a command line: options with and without a value, and operands.
An option can be written with two dashes and its name or with one dash and its
letter; a value follows as the next argument, behind an equals sign, or right
behind the letter.
-/

namespace PulseTracker.Cli

structure OptionSpec where
  long : String
  short : Option Char
  /-- Which values are accepted; a flag takes none. -/
  accepts : Option (String → Bool)
  required : Bool
  about : String
  /-- What an absent option stands for, as the help page shows it. -/
  fallback : Option String

structure CommandSpec where
  name : String
  about : String
  options : List OptionSpec
  /-- Names and descriptions of the operands, all of which are required. -/
  operands : List (String × String)
  rivals : List (String × String)
  /-- Whether the first operand names a command of its own and ends the scan. -/
  outer : Bool

inductive Stop where
  | usage
  | help (command : Option String)
  | version
  deriving DecidableEq, Repr

structure Found where
  /-- Options by name, with their values; a flag has an empty one. -/
  values : List (String × String)
  operands : List String
  rest : List String
  /-- Whether the value right before that name is refused. -/
  refused : Bool
  deriving DecidableEq, Repr

namespace Found

def empty : Found := { values := [], operands := [], rest := [], refused := false }

def value? (found : Found) (long : String) : Option String := found.values.lookup long

def has (found : Found) (long : String) : Bool := (found.value? long).isSome

def note (found : Found) (option : OptionSpec) (value : String) : Except Stop Found :=
  if found.has option.long then .error .usage
  else if (option.accepts.map fun accepts => accepts value).getD true then
    .ok { found with values := found.values ++ [(option.long, value)] }
  else .error .usage

end Found

namespace CommandSpec

def helpStop (spec : CommandSpec) : Stop := .help (if spec.outer then none else some spec.name)

def byLong? (spec : CommandSpec) (long : String) : Option OptionSpec :=
  spec.options.find? fun option => option.long = long

def byShort? (spec : CommandSpec) (short : Char) : Option OptionSpec :=
  spec.options.find? fun option => option.short = some short

/-- Letters behind one dash.  The result may be an option that waits for its value. -/
def scanLetters (spec : CommandSpec) : List Char → Found →
    Except Stop (Option OptionSpec × Found)
  | [], found => .ok (none, found)
  | letter :: rest, found =>
      if letter = 'h' then .error spec.helpStop
      else if letter = 'V' ∧ spec.outer then .error .version
      else
        match spec.byShort? letter with
        | none => .error .usage
        | some option =>
            if option.accepts.isNone then
              match found.note option "" with
              | .error stop => .error stop
              | .ok found => spec.scanLetters rest found
            else
              match rest with
              | [] => .ok (some option, found)
              | '=' :: value => (found.note option (String.ofList value)).map fun f => (none, f)
              | value => (found.note option (String.ofList value)).map fun f => (none, f)

/-- A name behind two dashes, with the value behind an equals sign if there is one. -/
def scanName (spec : CommandSpec) (name : String) (value : Option String) (found : Found) :
    Except Stop (Option OptionSpec × Found) :=
  if name = "help" ∧ value.isNone then .error spec.helpStop
  else if name = "version" ∧ spec.outer ∧ value.isNone then .error .version
  else
    match spec.byLong? name with
    | none => .error .usage
    | some option =>
        match option.accepts.isSome, value with
        | true, some value => (found.note option value).map fun f => (none, f)
        | true, none => .ok (some option, found)
        | false, none => (found.note option "").map fun f => (none, f)
        | false, some _ => .error .usage

def scanOperand (spec : CommandSpec) (operand : String) (found : Found) : Except Stop Found :=
  if found.operands.length < spec.operands.length then
    .ok { found with operands := found.operands ++ [operand] }
  else .error .usage

def scanOperands (spec : CommandSpec) : List String → Found → Except Stop Found
  | [], found => .ok found
  | operand :: rest, found =>
      match spec.scanOperand operand found with
      | .error stop => .error stop
      | .ok found => spec.scanOperands rest found

def splitValue (text : List Char) : String × Option String :=
  (String.ofList (text.takeWhile (· ≠ '=')),
    match text.dropWhile (· ≠ '=') with
    | _ :: value => some (String.ofList value)
    | [] => none)

/-- Whether an argument looks like an option; a lone dash does not. -/
def isOption : List Char → Bool
  | '-' :: _ :: _ => true
  | _ => false

def beginsWithName : List String → Bool
  | [] => false
  | name :: _ => !isOption name.toList

/-- Scan arguments from left to right; the option, if there is one, needs the next of them.  A
value is checked where it stands, but one right before the name of a command is refused only
when all behind the name is in order. -/
def scan (spec : CommandSpec) : List String → Option OptionSpec → Found → Except Stop Found
  | [], some _, _ => .error .usage
  | [], none, found => .ok found
  | arg :: rest, some option, found =>
      if isOption arg.toList then .error .usage
      else
        match found.note option arg with
        | .error stop =>
            if spec.outer && beginsWithName rest then .ok { found with rest, refused := true }
            else .error stop
        | .ok found => spec.scan rest none found
  | arg :: rest, none, found =>
      match arg.toList with
      | ['-', '-'] => spec.scanOperands rest found
      | '-' :: '-' :: text =>
          let (name, value) := splitValue text
          match spec.scanName name value found with
          | .error stop => .error stop
          | .ok (waiting, found) => spec.scan rest waiting found
      | '-' :: letter :: letters =>
          match spec.scanLetters (letter :: letters) found with
          | .error stop => .error stop
          | .ok (waiting, found) => spec.scan rest waiting found
      | _ =>
          if spec.outer then .ok { found with rest := arg :: rest }
          else
            match spec.scanOperand arg found with
            | .error stop => .error stop
            | .ok found => spec.scan rest none found

def complete (spec : CommandSpec) (found : Found) : Bool :=
  (spec.options.all fun option => !option.required || found.has option.long) &&
    found.operands.length = spec.operands.length &&
    spec.rivals.all fun pair => !(found.has pair.1 && found.has pair.2)

def read (spec : CommandSpec) (args : List String) : Except Stop Found :=
  match spec.scan args none .empty with
  | .error stop => .error stop
  | .ok found => if spec.complete found then .ok found else .error .usage

end CommandSpec

end PulseTracker.Cli
