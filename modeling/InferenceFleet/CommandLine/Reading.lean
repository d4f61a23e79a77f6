import InferenceFleet.Config.Environment
import InferenceFleet.CommandLine.Grammar
import InferenceFleet.CommandLine.Token

/-!
# Reading a command line

A command line is read in two levels, before and after the command, each with options of its own.
A value is looked at when the next thing of its level comes, or the level ends; the level before
the command ends after the other one. Asking for help or for the version ends the reading at once,
and so does the first mistake.

Once everything is read, the variables are looked at, which have to be acceptable wherever the
option that they stand for was not given. What is said after the command counts more than what is
said before it, and that more than what a variable says.
-/

namespace InferenceFleet.CommandLine

/-- What ends the reading of a command line without a command to run. -/
inductive Interruption
  /-- Help is asked for, about the whole program. -/
  | help
  /-- Help is asked for, about a command. -/
  | commandHelp (c : CommandRule)
  /-- Help is asked for, about asking for help. -/
  | helpOnHelp
  | version
  | misuse

/-- One level of a command line, as far as it was read. -/
structure Level where
  said : Said
  /-- A field whose value was not looked at yet, or did not come yet. -/
  pending : Option (Field × Option String)
  /-- The parameters that did not come yet. -/
  parameters : List ParameterRule
  /-- Whether options have ended. -/
  optionsEnded : Bool

namespace Level

/-- A level of which nothing was read. -/
def new (parameters : List ParameterRule) : Level := ⟨[], none, parameters, false⟩

/-- Whether the value of an option comes next. -/
def awaitsValue (l : Level) : Bool :=
  match l.pending with
  | some (_, none) => !l.optionsEnded
  | _ => false

/-- Says something. -/
def record (l : Level) (f : Field) (value : String) : Except Interruption Level :=
  match l.said.record? f value with
  | some said => .ok { l with said := said }
  | none => .error .misuse

/-- Looks at the value that was not looked at yet. -/
def settle (l : Level) : Except Interruption Level :=
  match l.pending with
  | none => .ok l
  | some (_, none) => .error .misuse
  | some (f, some value) => { l with pending := none }.record f value

/-- What an option does that is given with a value right after it, or without one. The interruption
is the one that asking for help means at this level. -/
def useOption (onHelp : Interruption) (l : Level) (o : OptionRule) (attached : Option String) :
    Except Interruption Level :=
  match o.effect, attached with
  | .flag f, none => do (← l.settle).record f ""
  | .value f _, some value => do (← l.settle).record f value
  | .value f _, none => do return { ← l.settle with pending := some (f, none) }
  | .help, none => do let _ ← l.settle; .error onHelp
  | .version, none => do let _ ← l.settle; .error .version
  | _, some _ => .error .misuse

/-- The options of a group of letters; what follows the letter of an option that takes a value is
that value. -/
def useLetters (onHelp : Interruption) (options : List OptionRule) :
    List Char → Level → Except Interruption Level
  | [], l => .ok l
  | c :: rest, l =>
      match options.find? fun o => o.short = some c with
      | none => .error .misuse
      | some o =>
          match o.valueField? with
          | some _ => l.useOption onHelp o (Token.attached? rest)
          | none => do useLetters onHelp options rest (← l.useOption onHelp o none)

/-- An argument that is no option: the value that comes next, or else a parameter. -/
def useText (l : Level) (s : String) : Except Interruption Level :=
  match l.pending, l.awaitsValue with
  | some (f, _), true => .ok { l with pending := some (f, some s) }
  | _, _ => do
      let l ← l.settle
      match l.parameters with
      | [] => .error .misuse
      | p :: rest => .ok { l with pending := some (p.field, some s), parameters := rest }

/-- Reads one argument. -/
def readArgument (onHelp : Interruption) (options : List OptionRule) (l : Level) (s : String) :
    Except Interruption Level :=
  if l.optionsEnded then l.useText s
  else
    match Token.ofText s with
    | .escape => .ok { l with optionsEnded := true }
    | .long name value =>
        match options.find? fun o => o.long = name with
        | some o => l.useOption onHelp o value
        | none => .error .misuse
    | .short letters => useLetters onHelp options letters l
    | .plain s => l.useText s

/-- Reads the arguments after a command. -/
def readCommand (c : CommandRule) (args : List String) : Except Interruption Level := do
  let l ← args.foldlM (readArgument (.commandHelp c) c.allOptions) (new c.parameters)
  let l ← l.settle
  if l.parameters.any ParameterRule.isRequired then .error .misuse else return l

end Level

/-- What the words after the one that asks for help ask about. -/
def readHelp : List String → Interruption
  | [] => .help
  | [name] =>
      match commandRule? name with
      | some c => .commandHelp c
      | none => if name = helpCommand then .helpOnHelp else .misuse
  | _ => .misuse

/-- Reads a whole command line: what was said before the command, the command, and what was said
after it. -/
def readRoot : List String → Level → Except Interruption (Said × CommandRule × Said)
  | [], _ => .error .misuse
  | s :: rest, l =>
      if l.awaitsValue || l.optionsEnded then do
        readRoot rest (← l.readArgument .help rootOptions s)
      else
        match commandRule? s with
        | some c => do
            let inner ← Level.readCommand c rest
            let outer ← l.settle
            return (outer.said, c, inner.said)
        | none =>
            if s = helpCommand then .error (readHelp rest)
            else do readRoot rest (← l.readArgument .help rootOptions s)

/-- Whether the variables are acceptable that stand for options which were not given. -/
def acceptsVariables (e : Environment) (options : List OptionRule) (said : Said) : Bool :=
  options.all fun o =>
    match o.valueField?, o.envName.bind e.get? with
    | some f, some value => said.has f || f.accepts value
    | _, _ => true

/-- The invocation that was said. -/
def invocation (e : Environment) (said : Said) (command : Command) : Invocation :=
  { config := (said.text? .config).or (e.get? configVariable)
    peersFile := said.text? .peersFile
    strict := said.has .strict
    noLocal := said.has .noLocal
    logLevel := ((said.text? .logLevel).or (e.get? logLevelVariable)).getD defaultLogLevel
    command := command }

/-- What a command line asks for. -/
def read (e : Environment) (args : List String) : Except Interruption Invocation := do
  let (outer, c, inner) ← readRoot args (.new [])
  if acceptsVariables e sharedOptions outer && acceptsVariables e sharedOptions inner then
    let said := outer ++ inner
    match c.command? said with
    | some command => return invocation e said command
    | none => .error .misuse
  else .error .misuse

end InferenceFleet.CommandLine
