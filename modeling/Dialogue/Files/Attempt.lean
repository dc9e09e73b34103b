import Dialogue.Files.Host

/-!
# Attempts

A job asks its host for things one after the other, and ends at the first that fails.
-/

namespace Dialogue

variable {m : Type → Type} [Monad m] {α ε : Type}

/-- What the host does for a job. -/
def ask (x : m α) : ExceptT Failure m α := ExceptT.lift x

/-- The value of a step, whose failure is reported as one of what was being done. -/
def attempt (doing : String) (cause : ε → Cause) (r : Except ε α) : ExceptT Failure m α :=
  match r with
  | .ok a => pure a
  | .error e => throw (.error ⟨some doing, cause e⟩)

def report [Journal m] (ns : List Notice) : ExceptT Failure m Unit := ask (Journal.report ns)

/-- The text in a file, which must be UTF-8. -/
def Files.readText [Files m] (path : Path) : m (Except FileError String) := do
  match ← Files.read path with
  | .error e => return .error e
  | .ok bytes =>
    match bytes.toText? with
    | some text => return .ok text
    | none => return .error .notText

end Dialogue
