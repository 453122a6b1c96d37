import Advisory.Json.Writer
import Advisory.Service.CommandLine
import Advisory.Snapshot.Written

/-!
# The program

Reads requests from standard input, one a line, and writes one reply a line. The snapshot is a file
with the written form of its tables.
-/

namespace Advisory

/-- The source at a path. A file that holds no snapshot is read as one without tables. -/
def readSource (path : String) : IO Source := do
  try
    let text ← IO.FS.readFile path
    return some (((Json.readSound? text).bind Snapshot.ofJson?).getD Snapshot.hollow)
  catch _ => return none

/-- Answers lines of input until there are none. -/
partial def serve (config : CommandLine.Config) (s : Service) : IO Unit := do
  let text ← (← IO.getStdin).getLine
  if text ≠ "" then
    let line := CommandLine.InputLine.read text
    if let some r := CommandLine.replyTo s line then
      IO.println r.toJson.render
      (← IO.getStdout).flush
    let source ← if line = .refresh then readSource config.snapshot else pure none
    serve config (CommandLine.afterLine s source line)

def runProgram (args : List String) : IO UInt32 := do
  let env : CommandLine.Environment := ⟨← IO.getEnv "DUMP_PATH", ← IO.getEnv "LOG_LEVEL"⟩
  match CommandLine.Config.read env args with
  | .error e =>
    (e.printed env).forM IO.println
    return e.status.toUInt32
  | .ok config =>
    let source ← if config.preload then readSource config.snapshot else pure none
    serve config (CommandLine.start config source)
    return 0

end Advisory

def main (args : List String) : IO UInt32 := Advisory.runProgram args
