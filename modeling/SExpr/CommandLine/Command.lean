import SExpr.Change.Basic
import SExpr.CommandLine.Arguments
import SExpr.Sequence
import SExpr.Source

/-!
# Commands

What the command line can ask for: to number the elements of a list, to list or
count the ways to make change, to rewrite source text, or to hold a session.
The first three compute a text; a session reads lines.
-/

namespace SExpr

/-- Where source text comes from. -/
inductive SourcePlace
  | argument (source : List Char)
  | file (path : List Char)
  deriving DecidableEq

/-- A command that computes a text. -/
inductive Command
  | enumerate (list : List Char)
  | change (total : Int64) (denominations : List Int64) (countOnly : Bool)
  | rewrite (place : SourcePlace)
  deriving DecidableEq

/-- What a command line asks for. -/
inductive Invocation
  | compute (command : Command)
  | session (historyFile : Option (List Char))
  deriving DecidableEq

/-- Why a command has no result. -/
inductive CommandError
  | failed (error : Error)
  | unreadableFile (path : List Char)
  deriving DecidableEq

namespace CommandError

/-- The message of a failed command. -/
def message : CommandError -> String
  | .failed error => error.message
  | .unreadableFile path => "Failed to read " ++ String.ofList path

end CommandError

namespace Command

/-- The printed form of one datum on a line of its own. -/
def datumLine (datum : Datum) : List Char :=
  unlines [datum.written]

/-- The text that the ways to make change are shown as. -/
def changeText
    (countOnly : Bool)
    (ways : List (List Int64)) : List Char :=
  if countOnly then
    unlines [Nat.toDigits 10 ways.length]
  else
    unlines (ways.map fun way => (Change.wayDatum way).written)

/-- The text that rewritten source is shown as. -/
def rewriteText (source : List Char) : Except Error (List Char) :=
  (respond source).map unlines

/-- Compute the text that a command asks for, given the bytes of files. -/
def run
    (readFile : List Char -> Option (List UInt8)) :
    Command -> Except CommandError (List Char)
  | .enumerate list =>
      ((readSingle list).bind Datum.enumerate).map datumLine
        |>.mapError .failed
  | .change total denominations countOnly =>
      (Change.listWays total denominations).map (changeText countOnly)
        |>.mapError .failed
  | .rewrite (.argument source) => (rewriteText source).mapError .failed
  | .rewrite (.file path) =>
      match (readFile path).bind Utf8.text? with
      | none => .error (.unreadableFile path)
      | some source => (rewriteText source).mapError .failed

end Command

namespace Invocation

open Arguments

/-- The arguments of the command that numbers elements. -/
def enumerateSignature : Signature :=
  ⟨[], [⟨"list", .anything, false⟩]⟩

/-- The arguments of the command that makes change. -/
def changeSignature : Signature :=
  ⟨[⟨"count", none, none⟩],
    [⟨"total", .number, false⟩, ⟨"denominations", .number, true⟩]⟩

/-- The arguments of the command that rewrites source text. -/
def rewriteSignature : Signature :=
  ⟨[⟨"expr", some 'e', some ⟨"expr", .anything, false⟩⟩],
    [⟨"file", .path, false⟩]⟩

/-- The arguments of the command that holds a session. -/
def sessionSignature : Signature :=
  ⟨[⟨"history-file", none, some ⟨"history-file", .path, false⟩⟩], []⟩

/-- The command that numbers elements, from its arguments. -/
def readEnumerate
    (arguments : List (List Char)) : Except UsageFault Invocation := do
  let given <- Arguments.read enumerateSignature arguments
  match given.value? "list" with
  | some list => return .compute (.enumerate list)
  | none => .error .missingArgument

/-- The command that makes change, from its arguments. -/
def readChange
    (arguments : List (List Char)) : Except UsageFault Invocation := do
  let given <- Arguments.read changeSignature arguments
  match (given.value? "total").bind number? with
  | some total =>
      let denominations := (given.values "denominations").filterMap number?
      return .compute (.change total denominations (given.has "count"))
  | none => .error .missingArgument

/-- The command that rewrites source text, from its arguments. Source and file
exclude each other, and one of them must be given. -/
def readRewrite
    (arguments : List (List Char)) : Except UsageFault Invocation := do
  let given <- Arguments.read rewriteSignature arguments
  match given.value? "expr", given.value? "file" with
  | some _, some _ => .error .conflict
  | some source, none => return .compute (.rewrite (.argument source))
  | none, some path => return .compute (.rewrite (.file path))
  | none, none => .error .missingArgument

/-- The command that holds a session, from its arguments. -/
def readSession
    (arguments : List (List Char)) : Except UsageFault Invocation := do
  let given <- Arguments.read sessionSignature arguments
  return .session (given.value? "history-file")

/-- The commands with the readers of their arguments. -/
def commands :
    List (String × (List (List Char) -> Except UsageFault Invocation)) :=
  [("enumerate", readEnumerate), ("change", readChange),
    ("analyze", readRewrite), ("repl", readSession)]

/-- The reader of the arguments of a command. -/
def readerOf?
    (name : List Char) :
    Option (List (List Char) -> Except UsageFault Invocation) :=
  (commands.find? fun command => command.1.toList == name).map Prod.snd

/-- Whether a word stands for a command, the one for help included. -/
def isCommandWord (word : List Char) : Bool :=
  word == "help".toList || (readerOf? word).isSome

/-- What is wrong with a request for help on the given commands. Help is there
for each command, and commands have none below them. -/
def helpFault : List (List Char) -> UsageFault
  | [] => .helpRequested
  | [word] => if isCommandWord word then .helpRequested else .unknownCommand
  | _ => .unknownCommand

/-- What is wrong with a first argument that is no command. -/
def topLevelFault (argument : List Char) : UsageFault :=
  match argument with
  | '-' :: '-' :: named =>
      let name := String.ofList (named.takeWhile (· != '='))
      if name ≠ "help" ∧ name ≠ "version" then .unknownArgument
      else if '=' ∈ named then .unexpectedValue
      else if name = "help" then .helpRequested
      else .versionRequested
  | '-' :: 'h' :: _ => .helpRequested
  | '-' :: 'V' :: _ => .versionRequested
  | '-' :: _ :: _ => .unknownArgument
  | _ => .unknownCommand

/-- Read what a command line asks for. -/
def read : List (List Char) -> Except UsageFault Invocation
  | [] => .error .nothingRequested
  | first :: arguments =>
      match readerOf? first with
      | some reader => reader arguments
      | none =>
          if first = "help".toList then
            .error (helpFault arguments)
          else if first = "--".toList then
            match arguments with
            | [] => .error .nothingRequested
            | word :: _ =>
                .error
                  (if isCommandWord word then .unknownArgument
                    else .unknownCommand)
          else
            .error (topLevelFault first)

end Invocation
end SExpr
