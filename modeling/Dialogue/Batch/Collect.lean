import Dialogue.Files.Attempt
import Dialogue.Files.Pattern

/-!
# Collecting scripts

A path that is no folder stands for itself; a folder stands for its script files in the order
of their paths.
-/

namespace Dialogue.Batch

variable {m : Type → Type} [Monad m] [Files m]

/-- The elements that pass a test on the files. -/
def keep (test : Path → m Bool) : List Path → m (List Path)
  | [] => pure []
  | p :: ps => do
    let good ← test p
    let rest ← keep test ps
    pure (if good then p :: rest else rest)

def collect (path : Path) (extension : String) : ExceptT Failure m (List Path) := do
  if !(← ask (Files.isDir path)) then
    return [path]
  if path.toText?.isNone then
    throw (.error (.ofCause (.folderNotText path.display)))
  let start := if path.isAbsolute then ⟨[Path.slash]⟩ else ⟨[Path.dot]⟩
  match ← ask (Files.expand (Files.segments path (Bytes.ofText extension)) start) with
  | .error e => throw (.error (.ofCause (.file e)))
  | .ok found =>
    let files ← ask (keep Files.isFile found)
    return files.mergeSort fun p q => !q.lt p

end Dialogue.Batch
