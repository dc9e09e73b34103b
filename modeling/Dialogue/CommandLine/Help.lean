import Dialogue.CommandLine.Invocation

/-!
# Help

What the tool says about its own use: help, version, and why a command line was refused.
-/

namespace Dialogue.CommandLine

def toolName : String := "mestool"

/-- The name under which a version is released, and the version. -/
def release : String := "mes-tool 0.1.0"

def Command.about : Command → String
  | .exportText => "Write the text of a script, or of every script in a folder, next to it"
  | .build => "Reinsert edited text and write rebuilt scripts into the rebuild folder"
  | .dump => "Print the decoded instruction list of a script as YAML"

def helpWordAbout : String := "Print this message or the help of the given subcommand(s)"

def Flag.about : Flag → String
  | .encoding => ""
  | .output => ""
  | .config => "Config file (default: ./mestool.toml if present)"
  | .verbose => "More logging; repeat for trace output"
  | .help => "Print help"
  | .version => "Print version"

/-- The word for a value. -/
def Slot.word : Slot → String
  | .config => "<CONFIG>"
  | .encoding => "<ENCODING>"
  | .output => "<OUTPUT>"
  | .path => "<PATH>"

/-- A flag as help shows it, without its letter. -/
def Flag.shown (f : Flag) : String :=
  match f.slot?, f with
  | some s, _ => s!"--{f.long} {s.word}"
  | none, .verbose => s!"--{f.long}..."
  | none, _ => s!"--{f.long}"

def Slot.shown : Slot → String
  | .config => Flag.config.shown
  | .encoding => Flag.encoding.shown
  | .output => Flag.output.shown
  | .path => Slot.path.word

/-! ## Help -/

/-- A heading and rows in two columns. -/
def helpSection (heading : String) (rows : List (String × String)) : String :=
  let width := rows.foldl (fun w r => max w r.1.length) 0
  let row (r : String × String) : String :=
    let gap := String.ofList (List.replicate (width - r.1.length) ' ')
    s!"  {r.1}{gap}  {r.2}\n"
  s!"\n{heading}:\n" ++ String.join (rows.map row)

def flagRows (place : Option Command) : List (String × String) :=
  (Flag.known place).map fun f => (s!"-{f.short}, {f.shown}", f.about)

def Topic.text : Topic → String
  | .tool =>
    "Export and reinsert the dialogue text of MES scripts\n\n" ++
    s!"Usage: {toolName} [OPTIONS] <COMMAND>\n" ++
    helpSection "Commands"
      ((Command.all.map fun c => (c.word, c.about)) ++ [(Command.helpWord, helpWordAbout)]) ++
    helpSection "Options" (flagRows none)
  | .command c =>
    s!"{c.about}\n\nUsage: {toolName} {c.word} [OPTIONS] {Slot.path.word}\n" ++
    helpSection "Arguments" [(Slot.path.word, "")] ++
    helpSection "Options" (flagRows (some c))
  | .help =>
    s!"{helpWordAbout}\n\nUsage: {toolName} {Command.helpWord} [COMMAND]...\n" ++
    helpSection "Arguments" [("[COMMAND]...", "Print help for the subcommand(s)")]

/-! ## Refusals -/

def Rejection.message : Rejection → String
  | .empty => Topic.text .tool
  | .missingCommand => s!"'{toolName}' requires a subcommand but one was not provided"
  | .unknownCommand word => s!"unrecognized subcommand '{word.toTextLossy}'"
  | .unknownArgument argument => s!"unexpected argument '{argument.toTextLossy}' found"
  | .missingPath _ =>
    s!"the following required arguments were not provided:\n  {Slot.path.shown}"
  | .missingValue s => s!"a value is required for '{s.shown}' but none was supplied"
  | .repeated s => s!"the argument '{s.shown}' cannot be used multiple times"
  | .unneededValue f value =>
    s!"unexpected value '{value.toTextLossy}' for '{f.shown}' found; no more were expected"
  | .unknownEncoding name error =>
    s!"invalid value '{name}' for '{Slot.encoding.shown}': {error.message}"
  | .notText => "invalid UTF-8 was detected in one or more arguments"

/-- The whole text that a refusal is answered with. -/
def Rejection.report (r : Rejection) : String :=
  match r with
  | .empty => r.message
  | _ => s!"error: {r.message}\n\nFor more information, try '--help'.\n"

end Dialogue.CommandLine
