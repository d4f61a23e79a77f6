import InferenceFleet.CommandLine.Help
import InferenceFleet.CommandLine.Reading
import InferenceFleet.Json.Writer
import InferenceFleet.Program.Daemon
import InferenceFleet.Program.Settings

/-!
# The program

From a command line to a response: what is printed, what is reported as an error, the exit code and
the files afterwards. A command line that cannot be read gives the code 2, a command that fails
gives 1, and everything else 0.
-/

namespace InferenceFleet.Program

open CommandLine (Command Interruption Invocation)

/-- What the program leaves behind. -/
structure Response where
  exitCode : UInt8
  output : String
  /-- Why the command failed. -/
  error : Option CommandError
  files : FileSystem

/-- Opens a session and does something with it. -/
def withSession (h : Host) (c : FleetConfig) (use : Session → Completion) : Completion :=
  match Session.start h c with
  | .ok s => use s
  | .error e => .failed e h.files

/-- Carries out a command under a configuration. -/
def perform (h : Host) (c : FleetConfig) : Command → Completion
  | .run .. => withSession h c fun s => (Daemon.start s).runThrough h.happenings
  | .status => withSession h c Session.showStatus
  | .peers => withSession h c Session.showPeers
  | .addPeer address name => withSession h c fun s => s.addPeer address name
  | .removePeer id => withSession h c fun s => s.removePeer id
  | .route options => withSession h c fun s => s.showRoute options.request
  | .probe address timeoutSecs =>
      showProbe h c address ((timeoutSecs.map Duration.ofSeconds).getD c.monitor.probeTimeout)

/-- Carries out an invocation. -/
def execute (h : Host) (i : Invocation) : Completion :=
  match i.settings h.files h.environment with
  | .ok config => perform h config i.command
  | .error e => .failed e h.files

/-- The text of a document that is shown. -/
def shownText : Option Tree → String
  | some t => Json.indented t ++ "\n"
  | none => ""

namespace Response

/-- A response that is a text. -/
def ofText (h : Host) (output : String) : Response := ⟨0, output, none, h.files⟩

/-- The response to an invocation. -/
def ofCompletion (c : Completion) : Response :=
  match c.result with
  | .ok t => ⟨0, shownText t, none, c.files⟩
  | .error e => ⟨1, "", some e, c.files⟩

/-- The response where there is no command to run. -/
def ofInterruption (h : Host) : Interruption → Response
  | .help => ofText h (CommandLine.Help.program h.environment)
  | .commandHelp c => ofText h (CommandLine.Help.command h.environment c)
  | .helpOnHelp => ofText h CommandLine.Help.ofHelp
  | .version => ofText h CommandLine.versionText
  | .misuse => ⟨2, "", none, h.files⟩

end Response

/-- The response to a command line. -/
def respond (h : Host) (args : List String) : Response :=
  match CommandLine.read h.environment args with
  | .ok invocation => .ofCompletion (execute h invocation)
  | .error interruption => .ofInterruption h interruption

end InferenceFleet.Program
