import Dialogue.Charset.Name
import Dialogue.Log.Filter
import Dialogue.Toml.Document

/-!
# Settings

What a configuration file can set. Every entry is optional, unknown entries are ignored, and
an entry of the wrong type makes the whole file invalid.
-/

namespace Dialogue

structure LogSettings where
  /-- For the sources of this tool. -/
  app : Threshold
  /-- For everything else. -/
  others : Threshold
  deriving DecidableEq, Repr

structure Settings where
  /-- The name of the encoding of script text. -/
  encoding : String
  /-- The extension of the script files in a folder. -/
  scriptExtension : String
  /-- The extension of the text exported next to a script. -/
  textExtension : String
  /-- The folder, next to the scripts, for rebuilt scripts. -/
  rebuildDir : String
  log : LogSettings
  deriving DecidableEq, Repr

inductive SettingsError where
  /-- The file is not TOML, or an entry has the wrong type. -/
  | malformed
  | charset (error : CharsetError)
  deriving DecidableEq, Repr

namespace Settings

def default : Settings where
  encoding := "sjis"
  scriptExtension := "mes"
  textExtension := "txt"
  rebuildDir := "rebuild"
  log := ⟨.upTo .info, .upTo .warn⟩

instance : Inhabited Settings := ⟨default⟩

/-- The file that is read if no other is named. -/
def defaultFile : String := "mestool.toml"

def charset (s : Settings) : Except CharsetError Charset := Charset.ofName s.encoding

/-! ## Reading -/

/-- The text that an entry has in place of a default. -/
def text (es : Toml.Entries) (key fallback : String) : Option String :=
  match es.lookup key with
  | none => some fallback
  | some (.string s) => some s
  | some _ => none

/-- A threshold is written as its name, or as the only key of a table, with nothing in it. -/
def threshold? : Toml.Value → Option Threshold
  | .string s => Threshold.named? s
  | .table _ [(key, .table _ [])] => Threshold.named? key
  | .table _ [(key, .array [])] => Threshold.named? key
  | _ => none

def threshold (v : Option Toml.Value) (fallback : Threshold) : Option Threshold :=
  match v with
  | none => some fallback
  | some v => threshold? v

/-- The log settings are written as a table, or as a list of their values in order. A point in
time counts as a table of parts none of which is a setting. -/
def logSettings (es : Toml.Entries) : Option LogSettings := do
  let fields (app others : Option Toml.Value) : Option LogSettings := do
    pure ⟨← threshold app default.log.app, ← threshold others default.log.others⟩
  match es.lookup "logger" with
  | none => pure default.log
  | some (.table _ es) => fields (es.lookup "app_level_filter") (es.lookup "level_filter")
  | some (.array vs) => fields vs[0]? vs[1]?
  | some (.tables vs) => fields vs[0]? vs[1]?
  | some (.datetime _) => pure default.log
  | some _ => none

def ofEntries? (es : Toml.Entries) : Option Settings := do
  pure {
    encoding := ← text es "encoding" default.encoding
    scriptExtension := ← text es "script_extension" default.scriptExtension
    textExtension := ← text es "text_extension" default.textExtension
    rebuildDir := ← text es "rebuild_dir" default.rebuildDir
    log := ← logSettings es }

/-- The settings of a configuration file, which must name a known encoding. -/
def parse (document : String) : Except SettingsError Settings :=
  match (Toml.parse document).bind ofEntries? with
  | none => .error .malformed
  | some s =>
    match s.charset with
    | .error e => .error (.charset e)
    | .ok _ => .ok s

end Settings

end Dialogue
