import Advisory.Service.Session
import Advisory.Service.Usage
import Advisory.Text.Blank

/-!
# The command line

The program is told by options, or by the environment where an option is not given, which snapshot
to load. It then answers the lines of its input one by one. Blank lines are passed over, and one
line is no request but a command that reloads the snapshot.

Arguments are read from left to right, and the first one that decides the outcome does so: one that
cannot be used ends the program with a status of its own, one that asks for the version or for help
ends it at once.
-/

namespace Advisory

namespace CommandLine

/-! ## Arguments -/

/-- What the arguments say. -/
structure Arguments where
  snapshot : Option String
  logLevel : Option String
  withoutPreload : Bool
deriving DecidableEq, Repr

/-- Why the program ends before it reads its input. -/
inductive Ending where
  | version
  | help (long : Bool)
  /-- The arguments cannot be used. -/
  | unusable
deriving DecidableEq, Repr

namespace Arguments

def initial : Arguments := ⟨none, none, false⟩

/-- Whether an argument stands for a value and not for an option. A single dash does. -/
def isValue (arg : String) : Bool :=
  match arg.toList with
  | ['-'] => true
  | '-' :: _ => false
  | _ => true

/-- Sets the snapshot, which may be named only once and not by an empty text. -/
def setSnapshot (a : Arguments) (value : String) : Except Ending Arguments :=
  if a.snapshot.isSome ∨ value = "" then .error .unusable
  else .ok { a with snapshot := some value }

/-- Sets the level of the log, which may be given only once. -/
def setLogLevel (a : Arguments) (value : String) : Except Ending Arguments :=
  if a.logLevel.isSome then .error .unusable else .ok { a with logLevel := some value }

/-- Says to begin without a snapshot, which may be said only once. -/
def setWithoutPreload (a : Arguments) : Except Ending Arguments :=
  if a.withoutPreload then .error .unusable else .ok { a with withoutPreload := true }

/-- The value of an option that is written together with its name. -/
def attached? (name arg : String) : Option String :=
  let start := name.toList ++ ['=']
  if start.isPrefixOf arg.toList then some (String.ofList (arg.toList.drop start.length)) else none

/-- Reads one argument that needs no other. -/
def readAlone (a : Arguments) (arg : String) : Except Ending Arguments :=
  if arg = "--no-preload" then a.setWithoutPreload
  else if arg = "--version" ∨ ['-', 'V'].isPrefixOf arg.toList then .error .version
  else if arg = "--help" then .error (.help true)
  else if ['-', 'h'].isPrefixOf arg.toList then .error (.help false)
  else
    match attached? "--dump" arg, attached? "--log-level" arg with
    | some value, _ => a.setSnapshot value
    | _, some value => a.setLogLevel value
    | none, none => .error .unusable

/-- Reads arguments after others. -/
def read (a : Arguments) : List String → Except Ending Arguments
  | [] => .ok a
  | ["--"] => .ok a
  | ["--dump"] | ["--log-level"] => .error .unusable
  | "--dump" :: value :: rest =>
    if isValue value then a.setSnapshot value >>= (read · rest) else .error .unusable
  | "--log-level" :: value :: rest =>
    if isValue value then a.setLogLevel value >>= (read · rest) else .error .unusable
  | arg :: rest => a.readAlone arg >>= (read · rest)

end Arguments

/-! ## Configuration -/

/-- How the program is run. -/
structure Config where
  snapshot : String
  logLevel : String
  preload : Bool
deriving DecidableEq, Repr

/-- How some arguments in some environment make the program run. -/
def Config.read (env : Environment) (args : List String) : Except Ending Config := do
  let a ← Arguments.initial.read args
  if a.snapshot = none ∧ env.snapshot = some "" then throw .unusable
  return {
    snapshot := (a.snapshot <|> env.snapshot).getD defaultSnapshot
    logLevel := (a.logLevel <|> env.logLevel).getD defaultLogLevel
    preload := !a.withoutPreload }

def Ending.status : Ending → Nat
  | unusable => 2
  | _ => 0

/-- What the program prints when it ends early. -/
def Ending.printed (env : Environment) : Ending → List String
  | version => versionLines
  | help long => if long then longHelp env else shortHelp env
  | unusable => []

/-! ## Input lines -/

/-- What a line of input is. -/
inductive InputLine where
  /-- A line that is passed over. -/
  | blank
  /-- The command that reloads the snapshot. -/
  | refresh
  | request (text : String)
deriving DecidableEq, Repr

/-- The line that reloads the snapshot. -/
def refreshCommand : String := "refresh-cache"

/-- What a line of input is, white space around it aside. -/
def InputLine.read (line : String) : InputLine :=
  let text := String.ofList (Text.trim line.toList)
  if text = "" then blank else if text = refreshCommand then refresh else request text

/-- The reply to the command, by whether a refresh begins. -/
def refreshReply (started : Bool) : Reply :=
  if started then ⟨202, .object [("refresh", .text "started")]⟩
  else ⟨409, .object [("refresh", .text "already running")]⟩

/-- A service before its first line of input. -/
def start (config : Config) (source : Source) : Service :=
  if config.preload then Service.initial.refresh source else Service.initial

/-- What a line of input does to a service. A refresh that begins has ended before the next line is
read. -/
def afterLine (s : Service) (source : Source) : InputLine → Service
  | .refresh => s.backgroundRefresh source
  | _ => s

/-- The reply to a line of input, if there is one. -/
def replyTo (s : Service) : InputLine → Option Reply
  | .blank => none
  | .refresh => some (refreshReply s.beginRefresh.isSome)
  | .request text => some (s.reply text)

/-- The replies to some lines of input. -/
def replies (s : Service) (source : Source) : List InputLine → List Reply
  | [] => []
  | line :: lines => (replyTo s line).toList ++ replies (afterLine s source line) source lines

/-- What a run of the program amounts to. -/
structure Outcome where
  status : Nat
  /-- Lines that are no replies. -/
  printed : List String
  replies : List Reply

/-- Runs the program on the lines of its input. A path leads to a source. -/
def run (sourceAt : String → Source) (env : Environment) (args lines : List String) : Outcome :=
  match Config.read env args with
  | .error e => ⟨e.status, e.printed env, []⟩
  | .ok config =>
    let source := sourceAt config.snapshot
    ⟨0, [], replies (start config source) source (lines.map InputLine.read)⟩

end CommandLine

end Advisory
