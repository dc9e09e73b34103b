import Dialogue.Files.Host

/-!
# Looking for files by pattern

A pattern is a path of segments. A segment without special characters is followed as it
stands. Any other segment is compared with every name in the directory, and then the case of
ASCII letters does not matter, whatever the segment was quoted from.
-/

namespace Dialogue.Files

inductive Segment where
  /-- Exactly this name. -/
  | exact (name : Bytes)
  /-- Any name equal to this one up to case. -/
  | caseless (name : Bytes)
  /-- Any name that ends like this up to case. -/
  | ending (tail : Bytes)
  deriving DecidableEq, Repr

namespace Segment

/-- A lower-case letter for an upper-case one. -/
def fold (b : UInt8) : UInt8 := if 0x41 ≤ b ∧ b ≤ 0x5A then b + 0x20 else b

def matchesName : Segment → Bytes → Bool
  | exact name, n => n = name
  | caseless name, n => n.map fold = name.map fold
  | ending tail, n => (tail.map fold).isSuffixOf (n.map fold)

/-- The bytes that have to be quoted in a pattern: question mark, asterisk, brackets. -/
def special : List UInt8 := [0x3F, 0x2A, 0x5B, 0x5D]

/-- The segment that a quoted name makes. -/
def quoted (name : Bytes) : Segment :=
  if name.any (· ∈ special) then caseless name else exact name

end Segment

variable {m : Type → Type} [Monad m] [Files m]

/-- The working directory itself leaves no trace in the paths found in it. -/
def child (dir : Path) (name : Bytes) : Path :=
  if dir.components = [.here] then ⟨name⟩ else dir.join ⟨name⟩

/-- What a search finds at each of some places, up to the first error. -/
def gather (search : Bytes → m (Except FileError (List Path))) :
    List Bytes → m (Except FileError (List Path))
  | [] => pure (.ok [])
  | n :: ns => do
    match ← search n with
    | .error e => pure (.error e)
    | .ok ps => return (← gather search ns).map (ps ++ ·)

/-- What a pattern finds from a path on. -/
def expand : List Segment → Path → m (Except FileError (List Path))
  | [], p => pure (.ok [p])
  | .exact name :: rest, p => do
    let next := child p name
    let found ← if name = [Path.dot] || name = [Path.dot, Path.dot] then isDir p else exists? next
    if found then expand rest next else pure (.ok [])
  | segment :: rest, p => do
    if ← isDir p then
      match ← names p with
      | .error e => pure (.error e)
      | .ok ns =>
        gather (fun n => expand rest (child p n))
          (ns.filter fun n => n.toText?.isSome && segment.matchesName n)
    else pure (.ok [])

/-- The segments for the files of a folder with an extension. The extension may hold slashes,
and then names files in folders whose names end like its first part. -/
def segments (folder : Path) (extension : Bytes) : List Segment :=
  match (Path.dot :: extension).splitOn Path.slash with
  | [] => []
  | first :: more =>
    folder.parts.map Segment.quoted ++ .ending first :: more.map Segment.quoted

end Dialogue.Files
