import Dialogue.Log.Notice
import Dialogue.Regex.Compile
import Dialogue.Text.Blank
import Dialogue.Text.Controls

/-!
# Log filters

A filter is a list of rules, each a threshold for the sources whose path begins with a name,
or for all sources. The rule with the longest name counts. A specification such as
`warn,mestool=info/[a-z]+` adds rules and a regular expression that messages must match.
-/

namespace Dialogue

/-- The most talkative level that passes, if any does. -/
inductive Threshold where
  | off
  | upTo (level : Level)
  deriving DecidableEq, Repr

namespace Threshold

def rank : Threshold → Nat
  | off => 0
  | upTo level => level.rank

def name : Threshold → String
  | off => "OFF"
  | upTo level => level.name

def all : List Threshold :=
  [off, upTo .error, upTo .warn, upTo .info, upTo .debug, upTo .trace]

/-- The threshold with a name, in any case. -/
def named? (s : String) : Option Threshold :=
  all.find? fun t => t.name.toList = s.toList.map Char.toUpper

/-- The more talkative of two thresholds. -/
def max (a b : Threshold) : Threshold := if a.rank < b.rank then b else a

def allows (t : Threshold) (level : Level) : Bool := level.rank ≤ t.rank

end Threshold

namespace Log

structure Rule where
  /-- What the path of a source must begin with; a rule without a name is for all sources. -/
  name : Option String
  threshold : Threshold
  deriving DecidableEq, Repr

structure Filter where
  rules : List Rule
  /-- What messages must have a match of. -/
  pattern : Option Regex
  deriving DecidableEq, Repr

namespace Filter

/-- Put a rule in the place of the one with the same name, or at the end. -/
def add (f : Filter) (r : Rule) : Filter :=
  if f.rules.any (·.name = r.name) then
    { f with rules := f.rules.map fun q => if q.name = r.name then r else q }
  else { f with rules := f.rules ++ [r] }

/-- The rule for a source: of those that fit, the last one with the longest name. -/
def rule? (f : Filter) (source : Source) : Option Rule :=
  f.rules.foldl (fun best r =>
    let fits := match r.name with
      | none => true
      | some n => n.toList.isPrefixOf source.path.toList
    let width (r : Rule) := (r.name.getD "").utf8ByteSize
    if fits && best.all fun b => width b ≤ width r then some r else best) none

def allows (f : Filter) (n : Notice) : Bool :=
  ((f.rule? n.source).any fun r => r.threshold.allows n.level) &&
    f.pattern.all fun r => r.isMatch n.message.toList

end Filter

/-- What a specification asks for, and the parts of it that make no sense. -/
structure Spec where
  rules : List Rule
  pattern : Option Regex
  faults : List String

namespace Spec

/-- One item of a list: a threshold, a name, or a name with a threshold. -/
def item (s : List Char) : Except String Rule :=
  match s.splitOn '=' with
  | [one] =>
    match Threshold.named? (String.ofList one) with
    | some t => .ok ⟨none, t⟩
    | none => .ok ⟨some (String.ofList one), .upTo .trace⟩
  | [name, level] =>
    let level := String.ofList (Text.trim level)
    if level.isEmpty then .ok ⟨some (String.ofList name), .upTo .trace⟩
    else
      match Threshold.named? level with
      | some t => .ok ⟨some (String.ofList name), t⟩
      | none => .error s!"invalid logging spec '{level}'"
  | _ => .error s!"invalid logging spec '{String.ofList s}'"

/-- What is wrong with a part, if anything is. -/
def fault? {α : Type} : Except String α → Option String
  | .error e => some e
  | .ok _ => none

/-- The expression behind the slash. -/
def expression (pattern : List Char) : Except String Regex :=
  (Regex.compile (String.ofList pattern)).mapError fun e =>
    s!"invalid regex filter - {e.message}"

def parse (s : String) : Spec :=
  let rules (items : List Char) : List (Except String Rule) :=
    ((items.splitOn ',').map Text.trim).filter (!·.isEmpty) |>.map item
  match s.toList.splitOn '/' with
  | [items] =>
    let read := rules items
    ⟨read.filterMap Except.toOption, none, read.filterMap fault?⟩
  | [items, pattern] =>
    let read := rules items
    let r := expression pattern
    ⟨read.filterMap Except.toOption, r.toOption, read.filterMap fault? ++ (fault? r).toList⟩
  | _ => ⟨[], none, [s!"invalid logging spec '{s}' (too many '/'s)"]⟩

/-- The filter with the rules of a specification added. -/
def applyTo (spec : Spec) (f : Filter) : Filter :=
  { spec.rules.foldl Filter.add f with pattern := spec.pattern }

/-- What is printed about the parts that make no sense. -/
def warnings (spec : Spec) : String :=
  String.join (spec.faults.map fun e => s!"warning: {e}, ignoring it\n")

end Spec

/-- Continue a text of several lines at a margin of four blanks. -/
def indent (s : String) : String :=
  String.ofList (s.toList.flatMap fun c => if c = '\n' then "\n    ".toList else [c])

/-- The line that a notice is printed as, without control sequences. -/
def line (n : Notice) : String :=
  let level := n.level.name.toList
  let padded := level ++ List.replicate (5 - level.length) ' '
  Text.plain s!"[{String.ofList padded} {n.source.path}] {indent n.message}\n"

end Log

end Dialogue
