import Dialogue.Files.Attempt
import Dialogue.Settings

/-!
# Loading settings

Settings come from the file that is named, else from the default file in the working
directory, else they are the defaults.
-/

namespace Dialogue.Settings

def cause : SettingsError → Cause
  | .malformed => .malformedSettings
  | .charset e => .script (.charset e)

variable {m : Type → Type} [Monad m] [Files m]

/-- The settings in a file. -/
def loadFile (path : Path) : ExceptT Failure m Settings := do
  let text ← attempt s!"reading config {path.display}" .file (← ask (Files.readText path))
  attempt s!"parsing config {path.display}" cause (Settings.parse text)

def load (path : Option Path) : ExceptT Failure m Settings := do
  match path with
  | some p => loadFile p
  | none =>
    let fallback := Path.ofString defaultFile
    if ← ask (Files.exists? fallback) then loadFile fallback else pure default

end Dialogue.Settings
