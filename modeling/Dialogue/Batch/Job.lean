import Dialogue.Files.Attempt
import Dialogue.Script
import Dialogue.Settings

/-!
# Jobs

A job treats one script: `exportFile` writes its text next to it, `buildFile` writes it with
the edited text into the rebuild folder. Every step that can fail says what was being done.
-/

namespace Dialogue.Batch

inductive Outcome where
  | written (path : Path)
  | skipped (why : String)
  deriving DecidableEq, Repr

/-- Where the text of a script is, unless the text extension makes that impossible. -/
def textPath (s : Settings) (script : Path) : Option Path :=
  script.withExtension (Bytes.ofText s.textExtension)

/-- Where a script is rebuilt to. -/
def rebuildPath (s : Settings) (script : Path) : Except ToolError Path :=
  match script.fileName with
  | none => .error (.ofCause (.notFile script.display))
  | some name =>
    let dir := script.parent.getD (.ofString ".")
    .ok ((dir.join (.ofString s.rebuildDir)).join ⟨name⟩)

variable {m : Type → Type} [Monad m] [Files m] [Journal m]

/-- The text path of a script, without which no job goes on. -/
def textPathOf (s : Settings) (script : Path) : ExceptT Failure m Path :=
  match textPath s script with
  | some p => pure p
  | none => throw .crash

def loadScript (path : Path) : ExceptT Failure m Script := do
  let bytes ← attempt s!"reading {path.display}" .file (← ask (Files.read path))
  report (Script.loadNotices bytes)
  attempt s!"loading {path.display}" .script (Script.load bytes)

def exportFile (charset : Charset) (s : Settings) (path : Path) : ExceptT Failure m Outcome := do
  let script ← loadScript path
  match script.exportText charset with
  | .error e => throw (.error (.ofCause (.script (.charset e))))
  | .ok units =>
    if units.isEmpty then
      return .skipped "no text to export"
    let out ← textPathOf s path
    attempt s!"writing {out.display}" .file
      (← ask (Files.write out (Bytes.ofText (Artifact.render units))))
    report [⟨.debug, .batch, s!"{path.display}: {units.length} strings exported"⟩]
    return .written out

/-- What importing a text file reports when it is done. -/
def importedNotices (path text : Path) (r : RelocationReport) : List Notice :=
  (if r.ignored.isEmpty then [] else
    [⟨.warn, .batch, s!"{text.display}: {r.ignored.length} lines did not match a string " ++
      "and were ignored"⟩]) ++
  [⟨.debug, .batch, s!"{path.display}: {r.replaced} strings replaced, " ++
    s!"{r.patched} jump entries patched"⟩]

/-- Write the file of a rebuilt script. -/
def writeRebuilt (s : Settings) (path : Path) (script : Script) : ExceptT Failure m Outcome := do
  match rebuildPath s path with
  | .error e => throw (.error e)
  | .ok out =>
    match out.parent with
    | none => pure ()
    | some dir => attempt s!"creating {dir.display}" .file (← ask (Files.makeDirs dir))
    attempt s!"writing {out.display}" .file (← ask (Files.write out script.save))
    return .written out

def buildFile (charset : Charset) (s : Settings) (path : Path) : ExceptT Failure m Outcome := do
  let textFile ← textPathOf s path
  if !(← ask (Files.exists? textFile)) then
    return .skipped s!"no text file {textFile.display}"
  let script ← loadScript path
  let text ← attempt s!"reading {textFile.display}" .file (← ask (Files.readText textFile))
  report (script.importNotices charset text)
  let (rebuilt, r) ←
    attempt s!"importing {textFile.display}" .script (script.importText charset text)
  report (importedNotices path textFile r)
  writeRebuilt s path rebuilt

end Dialogue.Batch
