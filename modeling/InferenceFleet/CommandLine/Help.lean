import InferenceFleet.CommandLine.Grammar
import InferenceFleet.Config.Environment

/-!
# Help

The texts that tell how the program is used. The entries of a section stand below each other, what
is said about them in one column. Options are sorted by their place among the options that they are
declared with, and within one place by their letter, or their word if they have no letter.
-/

namespace InferenceFleet.CommandLine

/-- The name of the program. -/
def programName : String := "fleet-daemon"

/-- The version of the program. -/
def programVersion : String := "0.1.0"

/-- What the program is about. -/
def programAbout : String :=
  "Fleet router daemon: peer health monitoring and routing administration"

/-- What is said about the word that asks for help. -/
def helpAbout : String := "Print this message or the help of the given subcommand(s)"

/-- The text that names the version. -/
def versionText : String := programName ++ " " ++ programVersion ++ "\n"

namespace Help

/-- A line of a section: an entry, and what is said about it. -/
abbrev Row := String × String

/-- The text of a row whose column starts after `width` characters. -/
def line (width : Nat) (row : Row) : String :=
  "  " ++ row.1 ++ "".pushn ' ' (width - row.1.length) ++ "  " ++ row.2 ++ "\n"

/-- A section, left out if it has no rows. -/
def sectionText (title : String) (rows : List Row) : String :=
  if rows.isEmpty then ""
  else
    let width := (rows.map fun row => row.1.length).foldl max 0
    "\n" ++ title ++ ":\n" ++ String.join (rows.map (line width))

/-- What is said about an entry, with its variable and what holds by default. -/
def remarks (e : Environment) (about : String) (envName fallbackValue : Option String) : String :=
  let fromVariable := match envName with
    | some name => " [env: " ++ name ++ "=" ++ (e.get? name).getD "" ++ "]"
    | none => ""
  let byDefault := match fallbackValue with
    | some value => " [default: " ++ value ++ "]"
    | none => ""
  about ++ fromVariable ++ byDefault

/-- The row of an option. -/
def optionRow (e : Environment) (o : OptionRule) : Row :=
  let letter := match o.short with
    | some c => "-" ++ c.toString ++ ", "
    | none => "    "
  let placeholder := match o.effect with
    | .value _ placeholder => " <" ++ placeholder ++ ">"
    | _ => ""
  (letter ++ "--" ++ o.long ++ placeholder, remarks e o.about o.envName o.fallbackValue)

/-- A placeholder as it is written in a line: in angle brackets if the parameter is required. -/
def placeholderText (p : ParameterRule) : String :=
  if p.isRequired then "<" ++ p.placeholder ++ ">" else "[" ++ p.placeholder ++ "]"

/-- The row of a parameter. -/
def parameterRow (e : Environment) (p : ParameterRule) : Row :=
  (placeholderText p, remarks e p.about none p.fallbackValue)

/-- An option with the key that it is sorted by. -/
def keyed (place : Nat) (o : OptionRule) : (Nat × String) × OptionRule :=
  ((place, (o.short.map fun c => c.toLower.toString).getD o.long), o)

/-- Whether a key comes no later than another one. -/
def keyLE (a b : (Nat × String) × OptionRule) : Bool :=
  a.1.1 < b.1.1 || (a.1.1 == b.1.1 && (a.1.2 < b.1.2 || a.1.2 == b.1.2))

/-- The options of a command among the shared ones, in the order of the help text. -/
def sorted (own : List OptionRule) : List OptionRule :=
  let places (options : List OptionRule) := options.zipIdx.map fun (o, place) => keyed place o
  ((places own ++ places sharedOptions).mergeSort keyLE).map Prod.snd

/-- The help about the whole program. -/
def program (e : Environment) : String :=
  programAbout ++ "\n\nUsage: " ++ programName ++ " [OPTIONS] <COMMAND>\n"
    ++ sectionText "Commands"
      (commands.map (fun c => (c.name, c.about)) ++ [(helpCommand, helpAbout)])
    ++ sectionText "Options" (rootOptions.map (optionRow e))

/-- The help about a command. -/
def command (e : Environment) (c : CommandRule) : String :=
  let parameters := String.join (c.parameters.map fun p => " " ++ placeholderText p)
  c.about ++ "\n\nUsage: " ++ programName ++ " " ++ c.name ++ " [OPTIONS]" ++ parameters ++ "\n"
    ++ sectionText "Arguments" (c.parameters.map (parameterRow e))
    ++ sectionText "Options" ((sorted c.options ++ [helpOption]).map (optionRow e))

/-- The help about asking for help. -/
def ofHelp : String :=
  helpAbout ++ "\n\nUsage: " ++ programName ++ " " ++ helpCommand ++ " [COMMAND]...\n"
    ++ sectionText "Arguments" [("[COMMAND]...", "Print help for the subcommand(s)")]

/-- What is said about a command line that cannot be read. -/
def hint : String :=
  "error: the command line is not usable

Usage: " ++ programName
    ++ " [OPTIONS] <COMMAND>

For more information, try '--help'."

end Help

end InferenceFleet.CommandLine
