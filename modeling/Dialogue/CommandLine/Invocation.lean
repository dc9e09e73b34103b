import Dialogue.Charset.Name
import Dialogue.CommandLine.Flag
import Dialogue.Path

/-!
# Invocations

What a command line asks for, and why one can be refused.
-/

namespace Dialogue.CommandLine

inductive Task where
  /-- Write the text of the scripts at a path. -/
  | exportText (path : Path)
  /-- Write the scripts at a path with their edited text. -/
  | build (path : Path)
  /-- List the script at a path, to a file if one is given. -/
  | dump (path : Path) (output : Option Path)
  deriving DecidableEq, Repr

structure Invocation where
  config : Option Path
  /-- How often more notices were asked for. -/
  verbosity : Nat
  encoding : Option Charset
  task : Task
  deriving DecidableEq, Repr

/-- What help can be asked about. -/
inductive Topic where
  | tool
  | command (c : Command)
  | help
  deriving DecidableEq, Repr

inductive Rejection where
  /-- There are no arguments at all. -/
  | empty
  | missingCommand
  | unknownCommand (word : Argument)
  | unknownArgument (argument : Argument)
  | missingPath (c : Command)
  /-- A value is missing, or is empty where it must not be. -/
  | missingValue (s : Slot)
  | repeated (s : Slot)
  | unneededValue (f : Flag) (value : Bytes)
  | unknownEncoding (name : String) (error : CharsetError)
  | notText
  deriving DecidableEq, Repr

/-- Why a command line leads to no task. -/
inductive Stop where
  | help (topic : Topic)
  | version
  | rejected (why : Rejection)
  deriving DecidableEq, Repr

end Dialogue.CommandLine
