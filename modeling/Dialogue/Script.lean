import Dialogue.Artifact
import Dialogue.Relocation

/-!
# Scripts

A loaded script is a container with the assembly of its code. Its text is exported as an
artifact and imported again. An import changes the script in place (`Method`); `apply` and
`importText` are what comes of it, the new script only if nothing failed.
-/

namespace Dialogue

structure Script where
  container : Container
  assembly : Assembly
  deriving DecidableEq, Repr

namespace Script

def load (file : Bytes) : Except ScriptError Script :=
  match Container.parse file with
  | .error e => .error e
  | .ok c =>
    match Assembly.decode c.code with
    | .error e => .error e
    | .ok asm => .ok ⟨c, asm⟩

def save (s : Script) : Bytes := s.container.toBytes

/-- The plain text of a string load, unless it is empty. -/
def text? (s : Script) (charset : Charset) (i : Instruction) :
    Option (Except CharsetError String) :=
  (i.payload? s.container.code).map fun payload => charset.decode (Cipher.decrypt payload)

/-- The texts of the instructions listed, in their order. -/
def textsOf (s : Script) (charset : Charset) : List Instruction → Except CharsetError Artifact
  | [] => .ok []
  | i :: is =>
    match s.text? charset i with
    | none => textsOf s charset is
    | some (.error e) => .error e
    | some (.ok text) =>
      match textsOf s charset is with
      | .error e => .error e
      | .ok units => .ok (⟨i.address, text⟩ :: units)

/-- The texts of all string loads that are not empty. -/
def exportText (s : Script) (charset : Charset) : Except CharsetError Artifact :=
  s.textsOf charset s.assembly.stringLoads

/-! ## Changes in place -/

/-- A method of a script. If it fails, what it has done to the script by then stays done. -/
abbrev Method := ExceptT ScriptError (StateM Script)

namespace Method

variable {α : Type}

/-- What the method returns, and the script it leaves. -/
def exec (x : Method α) (s : Script) : Except ScriptError α × Script := x.run.run s

/-- The script the method leaves and what it returns, unless it fails. -/
def result (x : Method α) (s : Script) : Except ScriptError (Script × α) :=
  match x.exec s with
  | (.error e, _) => .error e
  | (.ok a, s') => .ok (s', a)

end Method

/-- Relocate the script. -/
def relocateInPlace (charset : Charset) (m : Replacements) : Method RelocationReport := do
  let s ← get
  let r ← relocate charset s.container s.assembly m
  let asm ← Assembly.decode r.code
  modify fun s => { s with container := s.container.replaceCode r.jumps r.code }
  modify fun s => { s with assembly := asm }
  return r.report

/-- Put the replacements in place of the texts. Without any there is nothing to do. -/
def applyInPlace (charset : Charset) (m : Replacements) : Method RelocationReport := do
  if m.isEmpty then
    return .empty
  relocateInPlace charset m

/-- Put the texts of an edited artifact in place. -/
def importInPlace (charset : Charset) (text : String) : Method RelocationReport := do
  let m ← Artifact.parse text
  applyInPlace charset m

/-- The script with the replacements in place of its texts. -/
def apply (s : Script) (charset : Charset) (m : Replacements) :
    Except ScriptError (Script × RelocationReport) :=
  (applyInPlace charset m).result s

/-- The script with the texts of an edited artifact. -/
def importText (s : Script) (charset : Charset) (text : String) :
    Except ScriptError (Script × RelocationReport) :=
  (importInPlace charset text).result s

/-! ## Notices -/

/-- What loading `file` reports. -/
def loadNotices (file : Bytes) : List Notice :=
  match Container.parse file with
  | .error _ => []
  | .ok c => Container.notices file ++ Assembly.notices c.code

/-- What `apply` reports. -/
def applyNotices (s : Script) (charset : Charset) (m : Replacements) : List Notice :=
  if m.isEmpty then []
  else
    Relocation.notices charset s.container s.assembly m ++
    match relocate charset s.container s.assembly m with
    | .error _ => []
    | .ok r => Assembly.notices r.code

/-- What `importText` reports. -/
def importNotices (s : Script) (charset : Charset) (text : String) : List Notice :=
  Artifact.notices text ++
  match Artifact.parse text with
  | .error _ => []
  | .ok m => s.applyNotices charset m

end Script

end Dialogue
