import Dialogue.Batch.Collect
import Dialogue.Batch.Job

/-!
# Batches

`run` does one job for every file of a list. A failing file is counted and does not stop the
others.
-/

namespace Dialogue.Batch

structure Summary where
  written : Nat
  skipped : Nat
  /-- The files that failed, in order, each with its error. -/
  failed : List (Path × ToolError)
  deriving DecidableEq, Repr

namespace Summary

def empty : Summary := ⟨0, 0, []⟩

def isSuccess (s : Summary) : Bool := s.failed.isEmpty

end Summary

variable {m : Type → Type} [Monad m] [Journal m]

/-- What is reported about a file when its job is over. -/
def notice (file : Path) : Except ToolError Outcome → Notice
  | .ok (.written out) => ⟨.info, .batch, s!"{file.display} -> {out.display}"⟩
  | .ok (.skipped why) => ⟨.warn, .batch, s!"{file.display}: skipped, {why}"⟩
  | .error e => ⟨.error, .batch, s!"{file.display}: {e.message}"⟩

def Summary.add (s : Summary) (file : Path) : Except ToolError Outcome → Summary
  | .ok (.written _) => { s with written := s.written + 1 }
  | .ok (.skipped _) => { s with skipped := s.skipped + 1 }
  | .error e => { s with failed := s.failed ++ [(file, e)] }

/-- Do a job for every file, on top of what is done already. -/
def runFrom (job : Path → ExceptT Failure m Outcome) (done : Summary) :
    List Path → ExceptT Failure m Summary
  | [] => pure done
  | file :: files => do
    let finish (r : Except ToolError Outcome) : ExceptT Failure m Summary := do
      report [notice file r]
      runFrom job (done.add file r) files
    match ← ask (job file).run with
    | .ok outcome => finish (.ok outcome)
    | .error (.error e) => finish (.error e)
    | .error .crash => throw .crash

def run (job : Path → ExceptT Failure m Outcome) (files : List Path) :
    ExceptT Failure m Summary :=
  runFrom job .empty files

end Dialogue.Batch
