import Dialogue.ScriptError

/-!
# Failures of a job

An operation on files can fail, and so can what is read from them. A `ToolError` adds what
the tool was doing.
-/

namespace Dialogue

inductive FileError where
  | notFound
  | alreadyExists
  | notDirectory
  | isDirectory
  | nameTooLong
  /-- A path with a zero byte names nothing. -/
  | zeroInPath
  | notText
  | other (message : String)
  deriving DecidableEq, Repr

def FileError.message : FileError → String
  | notFound => "No such file or directory (os error 2)"
  | alreadyExists => "File exists (os error 17)"
  | notDirectory => "Not a directory (os error 20)"
  | isDirectory => "Is a directory (os error 21)"
  | nameTooLong => "File name too long (os error 36)"
  | zeroInPath => "file name contained an unexpected NUL byte"
  | notText => "stream did not contain valid UTF-8"
  | other message => message

inductive Cause where
  | file (error : FileError)
  | script (error : ScriptError)
  | malformedSettings
  | folderNotText (folder : String)
  | notFile (path : String)
  deriving DecidableEq, Repr

def Cause.message : Cause → String
  | file error => error.message
  | script error => error.message
  | malformedSettings => "TOML parse error"
  | folderNotText folder => "folder path is not valid UTF-8: " ++ folder
  | notFile path => "not a file: " ++ path

structure ToolError where
  /-- What the tool was doing. -/
  doing : Option String
  cause : Cause
  deriving DecidableEq, Repr

namespace ToolError

def ofCause (c : Cause) : ToolError := ⟨none, c⟩

/-- The whole error on one line. -/
def message (e : ToolError) : String :=
  match e.doing with
  | none => e.cause.message
  | some doing => doing ++ ": " ++ e.cause.message

end ToolError

/-- Why a job ended without an outcome. -/
inductive Failure where
  | error (e : ToolError)
  /-- The text extension holds a slash, so no script has a text path. The whole run stops. -/
  | crash
  deriving DecidableEq, Repr

end Dialogue
