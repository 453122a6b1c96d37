/-!
# How the program presents itself

The lines that the program prints when it is asked for its version or for help. Help comes in a short
and a long form, and both show what the environment says.
-/

namespace Advisory.CommandLine

/-- What the environment says. -/
structure Environment where
  snapshot : Option String
  logLevel : Option String
deriving DecidableEq, Repr

/-- The snapshot that is loaded where none is named. -/
def defaultSnapshot : String := "/data/vmaas.db"

/-- The level of the log where none is given. -/
def defaultLogLevel : String := "info"

/-- The name of the program and its version. -/
def versionLines : List String := ["webapp 0.1.0"]

/-- What the program is for. -/
def purpose : String :=
  "Answers package update and vulnerability queries from an exported snapshot"

/-- What an option takes from the environment, as help shows it. -/
def shownEnvironment (name : String) (value : Option String) : String :=
  "[env: " ++ name ++ "=" ++ value.getD "" ++ "]"

/-- What an option stands at without being given, as help shows it. -/
def shownDefault (value : String) : String := "[default: " ++ value ++ "]"

/-- Help with one line for each option. -/
def shortHelp (env : Environment) : List String := [
  purpose,
  "",
  "Usage: webapp [OPTIONS]",
  "",
  "Options:",
  "      --dump <DUMP>            Snapshot the cache is loaded from " ++
    shownEnvironment "DUMP_PATH" env.snapshot ++ " " ++ shownDefault defaultSnapshot,
  "      --log-level <LOG_LEVEL>  Log filter, in env_logger syntax " ++
    shownEnvironment "LOG_LEVEL" env.logLevel ++ " " ++ shownDefault defaultLogLevel,
  "      --no-preload             Start without a cache, until the first `refresh-cache`",
  "  -h, --help                   Print help (see more with '--help')",
  "  -V, --version                Print version"]

/-- Help with a paragraph for each option. -/
def longHelp (env : Environment) : List String := [
  purpose ++ ".",
  "",
  "Requests are read from stdin, one JSON envelope per line; `refresh-cache` reloads the snapshot.",
  "",
  "Usage: webapp [OPTIONS]",
  "",
  "Options:",
  "      --dump <DUMP>",
  "          Snapshot the cache is loaded from",
  "          ",
  "          " ++ shownEnvironment "DUMP_PATH" env.snapshot,
  "          " ++ shownDefault defaultSnapshot,
  "",
  "      --log-level <LOG_LEVEL>",
  "          Log filter, in env_logger syntax",
  "          ",
  "          " ++ shownEnvironment "LOG_LEVEL" env.logLevel,
  "          " ++ shownDefault defaultLogLevel,
  "",
  "      --no-preload",
  "          Start without a cache, until the first `refresh-cache`",
  "",
  "  -h, --help",
  "          Print help (see a summary with '-h')",
  "",
  "  -V, --version",
  "          Print version"]

end Advisory.CommandLine
