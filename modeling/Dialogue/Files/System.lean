import Dialogue.Files.Host

/-!
# A modelled file system

A file system without links: a list of nodes by location, in the order of locations, and the
directory that relative paths start from. A location is the list of names from the root.
-/

namespace Dialogue

abbrev Name := Bytes

abbrev Location := List Name

inductive Node where
  | file (content : Bytes)
  | dir
  deriving DecidableEq, Repr

structure FileSystem where
  entries : List (Location × Node)
  workDir : Location
  deriving DecidableEq, Repr

namespace FileSystem

/-- The node at a location; the root is always a directory. -/
def node? (fs : FileSystem) (l : Location) : Option Node :=
  if l.isEmpty then some .dir else fs.entries.lookup l

/-- Put a node at a location in an ordered list, in the place of a node already there. -/
def putEntry (l : Location) (n : Node) : List (Location × Node) → List (Location × Node)
  | [] => [(l, n)]
  | e :: es =>
    if l = e.1 then (l, n) :: es
    else if l < e.1 then (l, n) :: e :: es
    else e :: putEntry l n es

def put (fs : FileSystem) (l : Location) (n : Node) : FileSystem :=
  { fs with entries := putEntry l n fs.entries }

/-! ## Paths -/

def maxName : Nat := 255

def maxPath : Nat := 4095

/-- The parts of a path that are walked. -/
def steps (p : Path) : List Name := p.parts.filter (!·.isEmpty)

/-- Whether a path can only lead to a directory, because it ends with a slash. -/
def wantsDir (p : Path) : Bool := p.bytes.getLast? = some Path.slash

def here : Name := [Path.dot]

def up : Name := [Path.dot, Path.dot]

/-- The location that some steps lead to. -/
def walk (fs : FileSystem) (l : Location) : List Name → Except FileError Location
  | [] => .ok l
  | step :: rest =>
    if fs.node? l ≠ some .dir then .error .notDirectory
    else if step = here then walk fs l rest
    else if step = up then walk fs l.dropLast rest
    else if maxName < step.length then .error .nameTooLong
    else
      match fs.node? (l ++ [step]) with
      | none => .error .notFound
      | some _ => walk fs (l ++ [step]) rest

/-- What is wrong with a path by itself. -/
def fault? (p : Path) : Option FileError :=
  if 0 ∈ p.bytes then some .zeroInPath
  else if p.bytes.isEmpty then some .notFound
  else if maxPath < p.bytes.length then some .nameTooLong
  else none

def start (fs : FileSystem) (p : Path) : Location := if p.isAbsolute then [] else fs.workDir

/-- The location that a path leads to, and the node there. -/
def resolve (fs : FileSystem) (p : Path) : Except FileError (Location × Node) :=
  match fault? p with
  | some e => .error e
  | none =>
    match fs.walk (fs.start p) (steps p) with
    | .error e => .error e
    | .ok l =>
      match fs.node? l with
      | none => .error .notFound
      | some (.file c) => if wantsDir p then .error .notDirectory else .ok (l, .file c)
      | some .dir => .ok (l, .dir)

/-- Where a path would put something new: the location of its directory, and the last name,
unless the path ends with the root, `.` or `..`. -/
def place (fs : FileSystem) (p : Path) : Except FileError (Location × Option Name) :=
  match fault? p with
  | some e => .error e
  | none =>
    match fs.walk (fs.start p) (steps p).dropLast with
    | .error e => .error e
    | .ok l =>
      if fs.node? l ≠ some .dir then .error .notDirectory
      else
        match (steps p).getLast? with
        | none => .ok (l, none)
        | some name =>
          if name = here ∨ name = up then .ok (l, none)
          else if maxName < name.length then .error .nameTooLong
          else .ok (l, some name)

/-! ## Operations -/

def kind? (fs : FileSystem) (p : Path) : Option FileKind :=
  match fs.resolve p with
  | .ok (_, .file _) => some .file
  | .ok (_, .dir) => some .dir
  | .error _ => none

def read (fs : FileSystem) (p : Path) : Except FileError Bytes :=
  match fs.resolve p with
  | .ok (_, .file content) => .ok content
  | .ok (_, .dir) => .error .isDirectory
  | .error e => .error e

/-- Write a file; a file system is returned only if that succeeds. -/
def write (fs : FileSystem) (p : Path) (content : Bytes) : Except FileError FileSystem :=
  match fs.place p with
  | .error e => .error e
  | .ok (_, none) => .error .isDirectory
  | .ok (l, some name) =>
    if wantsDir p ∨ fs.node? (l ++ [name]) = some .dir then .error .isDirectory
    else .ok (fs.put (l ++ [name]) (.file content))

def makeDir (fs : FileSystem) (p : Path) : Except FileError FileSystem :=
  match fs.place p with
  | .error e => .error e
  | .ok (_, none) => .error .alreadyExists
  | .ok (l, some name) =>
    match fs.node? (l ++ [name]) with
    | some _ => .error .alreadyExists
    | none => .ok (fs.put (l ++ [name]) .dir)

/-- The name of an entry that lies directly in a directory. -/
def nameIn? (l : Location) (e : Location) : Option Name :=
  match e.getLast? with
  | some name => if e = l ++ [name] then some name else none
  | none => none

def names (fs : FileSystem) (p : Path) : Except FileError (List Name) :=
  match fs.resolve p with
  | .ok (l, .dir) => .ok (fs.entries.filterMap fun e => nameIn? l e.1)
  | .ok (_, .file _) => .error .notDirectory
  | .error e => .error e

/-- What lies under a directory, by the names from there on. -/
def under (fs : FileSystem) (l : Location) : List (Location × Node) :=
  fs.entries.filterMap fun e =>
    if l.isPrefixOf e.1 && l.length < e.1.length then some (e.1.drop l.length, e.2) else none

end FileSystem

/-! ## A modelled host -/

/-- A file system, the notices taken so far, and what was printed. -/
structure World where
  files : FileSystem
  notices : List Notice := []
  results : String := ""
  remarks : String := ""
  deriving DecidableEq, Repr

namespace World

/-- Replace the file system if there is a new one. -/
def update (r : FileSystem → Except FileError FileSystem) : StateM World (Except FileError Unit) :=
  fun w =>
    match r w.files with
    | .ok fs => (.ok (), { w with files := fs })
    | .error e => (.error e, w)

instance : Files (StateM World) where
  kind? p := fun w => (w.files.kind? p, w)
  read p := fun w => (w.files.read p, w)
  write p content := update (·.write p content)
  makeDir p := update (·.makeDir p)
  names p := fun w => (w.files.names p, w)

instance : Journal (StateM World) where
  report ns := fun w => ((), { w with notices := w.notices ++ ns })

instance : Console (StateM World) where
  print s := fun w => ((), { w with results := w.results ++ s })
  remark s := fun w => ((), { w with remarks := w.remarks ++ s })

end World

end Dialogue
