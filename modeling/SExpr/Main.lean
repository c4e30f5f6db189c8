import SExpr.CommandLine.Command
import SExpr.Session.Run

/-!
# The program

Reads the arguments, runs the command that they ask for, and writes what it
computes. A session is held on standard input, one line at a time. Nothing is
logged.
-/

namespace SExpr

/-- The name under which the program keeps its files. -/
def programName : String :=
  "sexpr"

/-- The version that the program reports. -/
def programVersion : String :=
  "0.1.0"

/-- How to call the program. -/
def usage : String :=
  "Usage: sexpr <COMMAND>\n\n" ++
    "Commands:\n" ++
    "  enumerate <LIST>             Pair every element of a list with its index\n" ++
    "  change <TOTAL> [DENOMS]...   List every way to make change\n" ++
    "         [--count]             Print only the number of ways\n" ++
    "  analyze <FILE_PATH>          Rewrite let forms into applied lambdas\n" ++
    "         -e, --expr <CODE>     Rewrite the given source text\n" ++
    "  repl                         Read, rewrite and print line by line\n" ++
    "         --history-file <PATH> Where to keep the history\n" ++
    "  help                         Print this help\n"

/-- What is said about arguments that are not accepted. -/
def UsageFault.message : UsageFault -> String
  | .helpRequested => usage
  | .versionRequested => programName ++ " " ++ programVersion ++ "\n"
  | .nothingRequested => usage
  | .missingArgument => "error: a required argument is missing\n\n" ++ usage
  | .unknownArgument => "error: unexpected argument\n\n" ++ usage
  | .unknownCommand => "error: unrecognized command\n\n" ++ usage
  | .invalidNumber => "error: invalid number\n\n" ++ usage
  | .missingValue => "error: a value is required\n\n" ++ usage
  | .unexpectedValue => "error: unexpected value\n\n" ++ usage
  | .conflict => "error: an argument cannot be used here\n\n" ++ usage

/-- The bytes of a file, if it can be read. -/
def fileBytes? (path : String) : IO (Option (List UInt8)) := do
  try
    return some (<- IO.FS.readBinFile path).toList
  catch _ =>
    return none

/-- The directory part of a path. -/
def directoryOf (path : String) : String :=
  String.ofList
    ((path.toList.reverse.dropWhile (· != '/')).drop 1).reverse

/-- Write a file and the directories that lead to it, if that is possible. -/
def writeFile
    (path : String)
    (bytes : List UInt8) : IO Unit := do
  try
    let directory := directoryOf path
    unless directory.isEmpty do
      IO.FS.createDirAll directory
    IO.FS.writeBinFile path (ByteArray.mk bytes.toArray)
  catch _ =>
    return

/-- The history file: as given, or else as the environment says, or else in the
directory for the data of programs. -/
def historyPath? (given : Option (List Char)) : IO (Option String) := do
  match given, <- IO.getEnv "SEXPR_HISTORY" with
  | some path, _ => return some (String.ofList path)
  | none, some path => return some path
  | none, none =>
      let file := "/" ++ programName ++ "/history.txt"
      match <- IO.getEnv "XDG_DATA_HOME", <- IO.getEnv "HOME" with
      | some data, _ => return some (data ++ file)
      | none, some home => return some (home ++ "/.local/share" ++ file)
      | none, none => return none

/-- The bytes of a stream up to its next line feed, with it, or up to its end. -/
def lineBytes (input : IO.FS.Stream) : IO (List UInt8) := do
  let mut bytes : Array UInt8 := #[]
  repeat
    match (<- input.read 1).toList with
    | [] => break
    | byte :: _ =>
        bytes := bytes.push byte
        if byte = 10 then
          break
  return bytes.toList

/-- The next line of a stream, none at its end. -/
def nextLine (input : IO.FS.Stream) : IO (Option Line) := do
  return (Line.split (<- lineBytes input)).head?

/-- The lines of a stream, each read when it is asked for. -/
structure StreamLines where
  stream : IO.FS.Stream

instance : ForIn IO StreamLines Line where
  forIn lines first step := do
    let mut state := first
    repeat
      match <- nextLine lines.stream with
      | none => break
      | some line =>
          match <- step line state with
          | .yield next => state := next
          | .done last =>
              state := last
              break
    return state

/-- The console of the program. -/
def standardConsole : Console IO where
  write text := do
    let output <- IO.getStdout
    output.putStr (String.ofList text)
    output.flush
  writeError text := do
    (<- IO.getStderr).putStr (String.ofList text)

/-- Hold a session with the history that is on file, and keep its history. -/
def runSession (given : Option (List Char)) : IO UInt32 := do
  let path <- historyPath? given
  let before <- match path with
    | some path => fileBytes? path
    | none => pure none
  let dumb := (<- IO.getEnv "TERM") == some "dumb"
  let prompting := dumb || (<- (<- IO.getStdin).isTty)
  let ending <-
    Session.hold standardConsole .off prompting (History.ofFile? before)
      (StreamLines.mk (<- IO.getStdin))
  match path, ending.history.save before with
  | some path, some after =>
      if ending.history.unsaved then
        writeFile path after
  | _, _ => pure ()
  return ending.status

/-- Run a command, and write what it computes or why there is nothing. -/
def runCommand (command : Command) : IO UInt32 := do
  let file <- match command with
    | .rewrite (.file path) => fileBytes? (String.ofList path)
    | _ => pure none
  match command.run fun _ => file with
  | .ok text =>
      (<- IO.getStdout).putStr (String.ofList text)
      return 0
  | .error error =>
      (<- IO.getStderr).putStrLn ("Error: " ++ error.message)
      return 1

/-- Say why arguments are not accepted. -/
def reportUsage (fault : UsageFault) : IO UInt32 := do
  if fault = .helpRequested ∨ fault = .versionRequested then
    (<- IO.getStdout).putStr fault.message
    return 0
  else
    (<- IO.getStderr).putStr fault.message
    return 2

end SExpr

/-- The program. -/
def main (arguments : List String) : IO UInt32 :=
  match SExpr.Invocation.read (arguments.map String.toList) with
  | .ok (.compute command) => SExpr.runCommand command
  | .ok (.session historyFile) => SExpr.runSession historyFile
  | .error fault => SExpr.reportUsage fault
