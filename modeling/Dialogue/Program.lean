import Dialogue.Batch.Run
import Dialogue.CommandLine.Help
import Dialogue.CommandLine.Read
import Dialogue.Listing.Yaml
import Dialogue.Settings.Load

/-!
# The program

A whole run of the tool on some host: read the command line, load the settings, set up the
log, do the task, and say how it ended. Notices go to the console as far as the log filter
lets them.
-/

namespace Dialogue.Program

open CommandLine

/-- How a run ends. -/
inductive Ending where
  | success
  /-- Some job failed. -/
  | failure
  /-- The command line was refused. -/
  | refused
  | crash
  deriving DecidableEq, Repr

def Ending.code : Ending → UInt32
  | success => 0
  | failure => 1
  | refused => 2
  | crash => 101

/-! ## The log -/

/-- The threshold for the sources of this tool. -/
def appThreshold (log : LogSettings) (verbosity : Nat) : Threshold :=
  match verbosity with
  | 0 => log.app
  | 1 => log.app.max (.upTo .debug)
  | _ => .upTo .trace

/-- The filter that settings and verbosity ask for. -/
def baseFilter (log : LogSettings) (verbosity : Nat) : Log.Filter :=
  let app := appThreshold log verbosity
  { rules := ⟨none, log.others⟩ ::
      ["mestool", "mes_script", "mes_nls"].map fun name => ⟨some name, app⟩
    pattern := none }

/-- A host on which notices are printed as far as a filter lets them. -/
abbrev Logged (m : Type → Type) := ReaderT Log.Filter m

variable {m : Type → Type} [Monad m]

instance [Files m] : Files (Logged m) where
  kind? p := fun _ => Files.kind? p
  read p := fun _ => Files.read p
  write p content := fun _ => Files.write p content
  makeDir p := fun _ => Files.makeDir p
  names p := fun _ => Files.names p

instance [Console m] : Console (Logged m) where
  print s := fun _ => Console.print s
  remark s := fun _ => Console.remark s

instance [Console m] : Journal (Logged m) where
  report ns := fun filter =>
    Console.remark (String.join ((ns.filter filter.allows).map Log.line))

/-! ## Tasks -/

section Tasks

variable [Files m] [Journal m] [Console m]

def info (message : String) : ExceptT Failure m Unit := report [⟨.info, .tool, message⟩]

/-- The encoding of script text, which is reported. -/
def charsetNotice (c : Charset) : Notice := ⟨.debug, .tool, s!"text encoding: {c.name}"⟩

/-- The encoding that was asked for, or else the one of the settings. -/
def charsetFor (asked : Option Charset) (s : Settings) : Except CharsetError Charset :=
  match asked with
  | some c => .ok c
  | none => s.charset

/-- Do a job for every script at a path. -/
def runBatch (s : Settings) (path : Path) (doing : String)
    (job : Path → ExceptT Failure m Batch.Outcome) : ExceptT Failure m Ending := do
  let files ← Batch.collect path s.scriptExtension
  let summary ← Batch.run (fun file => do info s!"{doing} {file.display}"; job file) files
  info (s!"{summary.written} written, {summary.skipped} skipped, " ++
    s!"{summary.failed.length} failed")
  return if summary.isSuccess then .success else .failure

/-- List a script, to a file if one is given. -/
def dump (charset : Charset) (path : Path) (output : Option Path) : ExceptT Failure m Ending := do
  let script ← Batch.loadScript path
  report (Listing.notices script charset)
  let yaml := (Listing.ofScript script charset).toYaml
  match output with
  | none => ask (Console.print yaml)
  | some out =>
    attempt s!"creating {out.display}" .file (← ask (Files.write out (Bytes.ofText yaml)))
  return .success

def perform (s : Settings) (i : Invocation) : ExceptT Failure m Ending := do
  match charsetFor i.encoding s with
  | .error e => throw (.error (.ofCause (.script (.charset e))))
  | .ok charset =>
    report [charsetNotice charset]
    match i.task with
    | .exportText path => runBatch s path "exporting text from" (Batch.exportFile charset s)
    | .build path => runBatch s path "rebuilding" (Batch.buildFile charset s)
    | .dump path output => dump charset path output

end Tasks

/-! ## Runs -/

/-- What is said about an error that ends the run. -/
def errorReport (e : ToolError) : String :=
  match e.doing with
  | none => s!"Error: {e.cause.message}\n"
  | some doing => s!"Error: {doing}\n\nCaused by:\n    {Log.indent e.cause.message}\n"

/-- The ending that a failure makes. -/
def giveUp [Console m] (f : Failure) : m Ending := do
  match f with
  | .error e =>
    Console.remark (errorReport e)
    return .failure
  | .crash => return .crash

/-- Do what an invocation asks for. A specification, if there is one, changes the log
filter. -/
def carryOut [Files m] [Console m] (i : Invocation) (logSpec : Option String) : m Ending := do
  match ← (Settings.load i.config).run with
  | .error f => giveUp f
  | .ok s =>
    let spec := Log.Spec.parse (logSpec.getD "")
    Console.remark spec.warnings
    let filter := spec.applyTo (baseFilter s.log i.verbosity)
    match ← ((perform s i : ExceptT Failure (Logged m) Ending).run).run filter with
    | .error f => giveUp f
    | .ok ending => return ending

def run [Files m] [Console m] (arguments : List Argument) (logSpec : Option String) :
    m Ending := do
  match CommandLine.read arguments with
  | .ok i => carryOut i logSpec
  | .error (.help topic) =>
    Console.print topic.text
    return .success
  | .error .version =>
    Console.print (release ++ "\n")
    return .success
  | .error (.rejected why) =>
    Console.remark why.report
    return .refused

end Dialogue.Program
