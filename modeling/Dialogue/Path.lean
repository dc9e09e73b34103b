import Dialogue.Charset.Utf8

/-!
# Paths

A path is a sequence of bytes, not all of which are text. It is read as parts separated by
slashes, of which only some are components: empty parts are not, and neither is `.` except
as the very first part of a relative path. Operations keep the bytes of the parts they do not
change.
-/

namespace Dialogue

structure Path where
  bytes : Bytes
  deriving DecidableEq, Repr

namespace Path

def slash : UInt8 := 0x2F

def dot : UInt8 := 0x2E

def ofString (s : String) : Path := ⟨Bytes.ofText s⟩

/-- The path as text, with U+FFFD for what is not. -/
def display (p : Path) : String := p.bytes.toTextLossy

def toText? (p : Path) : Option String := p.bytes.toText?

def isAbsolute (p : Path) : Bool := p.bytes.head? = some slash

/-! ## Components -/

inductive Component where
  | root
  | here
  | up
  | name (bytes : Bytes)
  deriving DecidableEq, Repr

namespace Component

/-- The root comes first, then `.`, then `..`, then names. -/
def rank : Component → Nat
  | root => 0
  | here => 1
  | up => 2
  | name _ => 3

def lt : Component → Component → Bool
  | name a, name b => a < b
  | a, b => a.rank < b.rank

end Component

/-- The parts between slashes, without the root of an absolute path. -/
def parts (p : Path) : List Bytes :=
  (if p.isAbsolute then p.bytes.drop 1 else p.bytes).splitOn slash

/-- The component that a part stands for. Only the first part of a relative path is
`leading`. -/
def component? (leading : Bool) (part : Bytes) : Option Component :=
  if part.isEmpty then none
  else if part = [dot] then if leading then some .here else none
  else if part = [dot, dot] then some .up
  else some (.name part)

/-- The component of each part, for parts of which the first may be leading. -/
def componentsOf (leading : Bool) : List Bytes → List (Option Component)
  | [] => []
  | part :: rest => component? leading part :: componentsOf false rest

def components (p : Path) : List Component :=
  (if p.isAbsolute then [.root] else []) ++
    (componentsOf (!p.isAbsolute) p.parts).filterMap id

/-- Paths are ordered by their components. -/
def lt (p q : Path) : Bool :=
  let rec go : List Component → List Component → Bool
    | [], [] => false
    | [], _ :: _ => true
    | _ :: _, [] => false
    | a :: as, b :: bs => a.lt b || (a = b && go as bs)
  go p.components q.components

/-- The path of some parts, behind the root if it is `absolute`. -/
def ofParts (absolute : Bool) (parts : List Bytes) : Path :=
  ⟨(if absolute then [slash] else []) ++ (parts.intersperse [slash]).flatten⟩

/-- The parts up to the last component, and that component. -/
def splitLast (p : Path) : Option (List Bytes × Component) :=
  let marked := (p.parts.zip (componentsOf (!p.isAbsolute) p.parts)).reverse
  match marked.dropWhile (·.2.isNone) with
  | (part, some c) :: before => some ((part :: before.map (·.1)).reverse, c)
  | _ => none

/-- The last component, if it is a name. -/
def fileName (p : Path) : Option Bytes :=
  match p.splitLast with
  | some (_, .name n) => some n
  | _ => none

/-- The path without its last component, and without what is no component behind the one
before it. -/
def parent (p : Path) : Option Path :=
  match p.splitLast with
  | none => none
  | some (upTo, _) =>
    let before := ofParts p.isAbsolute upTo.dropLast
    match before.splitLast with
    | some (kept, _) => some (ofParts p.isAbsolute kept)
    | none => some (ofParts p.isAbsolute [])

/-- The path of `q` as seen from `p`. -/
def join (p q : Path) : Path :=
  if q.isAbsolute then q
  else if p.bytes.isEmpty || p.bytes.getLast? = some slash then ⟨p.bytes ++ q.bytes⟩
  else ⟨p.bytes ++ slash :: q.bytes⟩

/-! ## Extensions -/

/-- A file name before and after its last dot, if there is one that is not at its front. -/
def splitName (name : Bytes) : Bytes × Option Bytes :=
  let after := name.reverse.takeWhile (· ≠ dot)
  let before := (name.reverse.dropWhile (· ≠ dot)).drop 1
  if after.length = name.length || before.isEmpty then (name, none)
  else (before.reverse, some after.reverse)

def extension (p : Path) : Option Bytes := p.fileName.bind fun n => (splitName n).2

/-- The path up to the end of its last component. -/
def upToName (p : Path) : Path :=
  match p.splitLast with
  | some (upTo, _) => ofParts p.isAbsolute upTo
  | none => p

/-- The path with its extension replaced: first the old extension's length is cut off the end
of the path, then the last name is cut at its last dot and the new extension added, unless
that is empty. There is no such path if the extension holds a slash. -/
def withExtension (p : Path) (extension : Bytes) : Option Path :=
  if slash ∈ extension then none
  else
    let cut : Path := ⟨p.bytes.take (p.bytes.length - (p.extension.getD []).length)⟩
    match cut.fileName with
    | none => some cut
    | some name =>
      let stem := (splitName name).1
      let whole := cut.upToName.bytes
      let base := whole.take (whole.length - (name.length - stem.length))
      some ⟨if extension.isEmpty then base else base ++ dot :: extension⟩

end Path

end Dialogue
