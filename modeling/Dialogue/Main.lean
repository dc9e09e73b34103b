import Dialogue.Program

/-!
# The command line tool

The host on which the tool really runs. Only paths that are text can be opened here.
-/

namespace Dialogue.Host

/-- The number and the words of an error of the system. -/
def code? : IO.Error → Option (Nat × String)
  | .alreadyExists _ n s | .inappropriateType _ n s | .invalidArgument _ n s
  | .permissionDenied _ n s | .resourceExhausted _ n s | .noSuchThing _ n s
  | .noFileOrDirectory _ n s | .interrupted _ n s | .otherError n s | .resourceBusy n s
  | .resourceVanished n s | .unsupportedOperation n s | .hardwareFault n s
  | .unsatisfiedConstraints n s | .illegalOperation n s | .protocolError n s
  | .timeExpired n s => some (n.toNat, s)
  | .unexpectedEof | .userError _ => none

/-- Some operations give the number with its sign changed, as a word. -/
def positive (n : Nat) : Nat := if n < 0x80000000 then n else 0x100000000 - n

def fileError (e : IO.Error) : FileError :=
  match (code? e).map fun c => (positive c.1, c.2) with
  | some (2, _) => .notFound
  | some (17, _) => .alreadyExists
  | some (20, _) => .notDirectory
  | some (21, _) => .isDirectory
  | some (36, _) => .nameTooLong
  | some (n, words) => .other s!"{words} (os error {n})"
  | none => .other (toString e)

/-- The name by which the system knows a path. -/
def name (p : Path) : Except FileError String :=
  if 0 ∈ p.bytes then .error .zeroInPath
  else
    match p.toText? with
    | some name => .ok name
    | none => .error (.other "the path is not text")

/-- Act on a path, with errors as values. -/
def withName {α : Type} (p : Path) (act : String → IO α) : IO (Except FileError α) := do
  match name p with
  | .error e => return .error e
  | .ok s =>
    try return .ok (← act s)
    catch e => return .error (fileError e)

def kindOf : IO.FS.FileType → FileKind
  | .dir => .dir
  | .file => .file
  | _ => .special

instance : Files IO where
  kind? p := do
    let found ← withName p fun s => do return (← (← IO.FS.realPath s).metadata).type
    return found.toOption.map kindOf
  read p := withName p fun s => do return (← IO.FS.readBinFile s).toList
  write p content := withName p fun s => IO.FS.writeBinFile s ⟨content.toArray⟩
  makeDir p := withName p fun s => IO.FS.createDir s
  names p := withName p fun s => do
    return (← (← IO.FS.realPath s).readDir).toList.map fun e => Bytes.ofText e.fileName

instance : Console IO where
  print s := do
    let out ← IO.getStdout
    out.putStr s
    out.flush
  remark s := do (← IO.getStderr).putStr s

end Dialogue.Host

def main (arguments : List String) : IO UInt32 := do
  let logSpec ← IO.getEnv "RUST_LOG"
  let ending : Dialogue.Program.Ending ←
    Dialogue.Program.run (arguments.map Dialogue.Bytes.ofText) logSpec
  return ending.code
