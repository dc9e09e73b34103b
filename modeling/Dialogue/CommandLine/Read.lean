import Dialogue.CommandLine.Invocation

/-!
# Reading a command line

Flags can stand before the command and behind it; what is given behind it counts. A value
that a flag waits for is checked when the next flag or path is met, or at the end, and behind
the command before in front of it. So of two faults the one that is checked first is
reported.
-/

namespace Dialogue.CommandLine

/-- What was given at one place. -/
structure Given where
  config : Option Path := none
  verbosity : Nat := 0
  encoding : Option Charset := none
  output : Option Path := none
  path : Option Path := none
  deriving DecidableEq, Repr

namespace Given

def has (g : Given) : Slot → Bool
  | .config => g.config.isSome
  | .encoding => g.encoding.isSome
  | .output => g.output.isSome
  | .path => g.path.isSome

/-- A path as a value must not be empty. -/
def pathValue (s : Slot) (value : Bytes) : Except Stop Path :=
  if value.isEmpty then .error (.rejected (.missingValue s)) else .ok ⟨value⟩

def encodingValue (value : Bytes) : Except Stop Charset :=
  match value.toText? with
  | none => .error (.rejected .notText)
  | some name => (Charset.ofName name).mapError fun e => .rejected (.unknownEncoding name e)

def put (g : Given) (value : Bytes) : Slot → Except Stop Given
  | .config => return { g with config := ← pathValue .config value }
  | .encoding => return { g with encoding := ← encodingValue value }
  | .output => return { g with output := ← pathValue .output value }
  | .path => return { g with path := ← pathValue .path value }

/-- Give a slot its only value. -/
def fill (g : Given) (s : Slot) (value : Bytes) : Except Stop Given :=
  if g.has s then .error (.rejected (.repeated s)) else g.put value s

/-- The largest verbosity that is counted. -/
def maxVerbosity : Nat := 255

def louder (g : Given) : Given := { g with verbosity := min maxVerbosity (g.verbosity + 1) }

end Given

/-- How far the reading at one place has come. -/
structure Progress where
  given : Given := {}
  /-- The slot that was met last, with its value if that has come, and not yet filled. -/
  pending : Option (Slot × Option Bytes) := none
  deriving DecidableEq, Repr

namespace Progress

/-- Fill the slot that was met last. -/
def settle (p : Progress) : Except Stop Given :=
  match p.pending with
  | none => .ok p.given
  | some (s, none) => .error (.rejected (.missingValue s))
  | some (s, some value) => p.given.fill s value

/-- Whether the next argument is a value if it is no flag. -/
def isWaiting (p : Progress) : Bool :=
  match p.pending with
  | some (_, none) => true
  | _ => false

/-- Meet a slot whose value, if it has not come, is the next argument. -/
def meet (p : Progress) (s : Slot) (value : Option Bytes) : Except Stop Progress :=
  return ⟨← p.settle, some (s, value)⟩

/-- Meet a slot together with its value. -/
def attach (p : Progress) (s : Slot) (value : Bytes) : Except Stop Progress :=
  return ⟨← (← p.settle).fill s value, none⟩

/-- Whether a path was met already. -/
def hasPath (p : Progress) : Bool :=
  p.given.has .path || p.pending.any (·.1 = .path)

end Progress

def topic : Option Command → Topic
  | none => .tool
  | some c => .command c

/-- Obey a flag that takes no value. -/
def obey (place : Option Command) (p : Progress) (f : Flag) : Except Stop Progress := do
  let g ← p.settle
  match f with
  | .help => throw (.help (topic place))
  | .version => throw .version
  | _ => return ⟨g.louder, none⟩

def equals : UInt8 := 0x3D

def dash : UInt8 := 0x2D

/-- Read the letters behind one dash. What follows the letter of a flag that takes a value is
the value, with or without an equals sign. -/
def readLetters (place : Option Command) : Progress → List UInt8 → Except Stop Progress
  | p, [] => .ok p
  | p, b :: bs =>
    match Flag.ofShort? place b with
    | none => .error (.rejected (.unknownArgument [dash, b]))
    | some f =>
      match f.slot? with
      | none => do readLetters place (← obey place p f) bs
      | some s =>
        if bs.isEmpty then p.meet s none
        else p.attach s (if bs.head? = some equals then bs.tail else bs)

/-- Read the name behind two dashes, with the value behind an equals sign if there is one. -/
def readLong (place : Option Command) (p : Progress) (body : Bytes) : Except Stop Progress :=
  let name := body.takeWhile (· ≠ equals)
  let value := ((body.dropWhile (· ≠ equals)).head?).map fun _ => body.drop (name.length + 1)
  match Flag.ofLong? place name with
  | none => .error (.rejected (.unknownArgument (dash :: dash :: name)))
  | some f =>
    match f.slot?, value with
    | some s, some v => p.attach s v
    | some s, none => p.meet s none
    | none, some v => .error (.rejected (.unneededValue f v))
    | none, none => obey place p f

/-- Read an argument that is neither flag nor value. No path can stand before the command. -/
def readPath (place : Option Command) (literal : Bool) (p : Progress) (a : Argument) :
    Except Stop Progress :=
  match place with
  | none =>
    if literal && ((Command.ofWord? a).isSome || a = Bytes.ofText Command.helpWord) then
      .error (.rejected (.unknownArgument a))
    else .error (.rejected (.unknownCommand a))
  | some _ =>
    if p.hasPath then .error (.rejected (.unknownArgument a)) else p.meet .path (some a)

/-- Read arguments none of which is a flag. -/
def readLiterals (place : Option Command) : Progress → List Argument → Except Stop Progress
  | p, [] => .ok p
  | p, a :: later => do readLiterals place (← readPath place true p a) later

/-- The help that the arguments behind the word for it ask for. -/
def helpAbout : List Argument → Stop
  | [] => .help .tool
  | [a] =>
    if a = Bytes.ofText Command.helpWord then .help .help
    else
      match Command.ofWord? a with
      | some c => .help (.command c)
      | none => .rejected (.unknownCommand a)
  | a :: b :: _ =>
    if (Command.ofWord? a).isSome || a = Bytes.ofText Command.helpWord then
      .rejected (.unknownCommand b)
    else .rejected (.unknownCommand a)

/-- What an argument looks like. -/
inductive Shape where
  /-- Two dashes and more. -/
  | long (body : Bytes)
  /-- Two dashes, behind which there are no flags. -/
  | mark
  /-- One dash and more. -/
  | letters (body : Bytes)
  /-- Anything else, such as a lone dash. -/
  | word
  deriving DecidableEq, Repr

def shape : Argument → Shape
  | a :: b :: rest =>
    if a ≠ dash then .word
    else if b ≠ dash then .letters (b :: rest)
    else if rest.isEmpty then .mark
    else .long rest
  | _ => .word

/-- Read the arguments at a place, up to the command if that is still to come. -/
def scan (place : Option Command) :
    Progress → List Argument → Except Stop (Progress × Option (Command × List Argument))
  | p, [] => .ok (p, none)
  | p, a :: later =>
    if place.isNone && !p.isWaiting && a = Bytes.ofText Command.helpWord then
      .error (helpAbout later)
    else
      match if place.isNone && !p.isWaiting then Command.ofWord? a else none with
      | some c => .ok (p, some (c, later))
      | none =>
        match shape a with
        | .mark => do return (← readLiterals place p later, none)
        | .long body => do scan place (← readLong place p body) later
        | .letters body => do scan place (← readLetters place p body) later
        | .word =>
          match p.pending with
          | some (s, none) => scan place { p with pending := some (s, some a) } later
          | _ => do scan place (← readPath place false p a) later

/-- The task of a command with what was given behind it. -/
def task (c : Command) (g : Given) : Except Stop Task :=
  match g.path with
  | none => .error (.rejected (.missingPath c))
  | some path =>
    match c with
    | .exportText => .ok (.exportText path)
    | .build => .ok (.build path)
    | .dump => .ok (.dump path g.output)

/-- The invocation that arguments, without the name of the tool, ask for. -/
def read (arguments : List Argument) : Except Stop Invocation := do
  let (outer, found) ← scan none {} arguments
  match found with
  | none =>
    let g ← outer.settle
    if g.config.isNone && g.verbosity = 0 then throw (.rejected .empty)
    throw (.rejected .missingCommand)
  | some (c, later) =>
    let (inner, _) ← scan (some c) {} later
    let behind ← inner.settle
    let task ← task c behind
    let before ← outer.settle
    return {
      config := behind.config.or before.config
      verbosity := if behind.verbosity = 0 then before.verbosity else behind.verbosity
      encoding := behind.encoding
      task := task }

end Dialogue.CommandLine
