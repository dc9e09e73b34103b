import Dialogue.Files.Error
import Dialogue.Log.Notice
import Dialogue.Path

/-!
# What the tool asks of its host

`Files` is a file system, `Journal` takes the notices, `Console` has the two texts that the
user sees. Everything that touches files is written over these, so that it runs on the real
file system as well as on a modelled one.
-/

namespace Dialogue

inductive FileKind where
  | file
  | dir
  /-- Neither a regular file nor a directory. -/
  | special
  deriving DecidableEq, Repr

class Files (m : Type → Type) where
  /-- What a path leads to, if anything. -/
  kind? : Path → m (Option FileKind)
  read : Path → m (Except FileError Bytes)
  /-- Make a file hold some bytes, whether it was there or not. -/
  write : Path → Bytes → m (Except FileError Unit)
  /-- Make a directory inside one that exists. -/
  makeDir : Path → m (Except FileError Unit)
  /-- The names in a directory, in some order. -/
  names : Path → m (Except FileError (List Bytes))

class Journal (m : Type → Type) where
  report : List Notice → m Unit

class Console (m : Type → Type) where
  /-- Add to the results. -/
  print : String → m Unit
  /-- Add to what is said about them. -/
  remark : String → m Unit

namespace Files

variable {m : Type → Type} [Monad m] [Files m]

def exists? (p : Path) : m Bool := return (← kind? p).isSome

def isDir (p : Path) : m Bool := return (← kind? p) = some .dir

def isFile (p : Path) : m Bool := return (← kind? p) = some .file

/-- The paths from `p` upward that are not empty. -/
def ancestors (p : Path) : List Path := go p.bytes.length p
where
  go : Nat → Path → List Path
    | 0, _ => []
    | fuel + 1, p => p :: (p.parent.map (go fuel)).getD []

/-- Make the first of some directories, each of which lies in the next one. -/
def makeFirst : List Path → m (Except FileError Unit)
  | [] => pure (.ok ())
  | p :: ps => do
    match ← makeDir p with
    | .ok () => pure (.ok ())
    | .error .notFound =>
      match ← makeFirst ps with
      | .error e => pure (.error e)
      | .ok () => settle p (← makeDir p)
    | .error e => settle p (.error e)
where
  /-- A directory that is there is as good as made. -/
  settle (p : Path) (r : Except FileError Unit) : m (Except FileError Unit) := do
    match r with
    | .ok () => pure (.ok ())
    | .error e => if ← isDir p then pure (.ok ()) else pure (.error e)

/-- Make a directory and those above it that are missing. -/
def makeDirs (p : Path) : m (Except FileError Unit) :=
  makeFirst ((ancestors p).filter fun a => !a.bytes.isEmpty)

end Files

end Dialogue
