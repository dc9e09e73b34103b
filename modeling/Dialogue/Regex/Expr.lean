import Dialogue.Regex.Fault

/-!
# Written expressions

The parts of a regular expression as they are written, each with the stretch of the pattern
it takes. What they mean depends on the flags in force, which an expression can change.
-/

namespace Dialogue.Regex

/-! ## Flags -/

inductive Flag where
  | caseless
  | multiLine
  | dotAll
  | swapGreed
  | unicode
  | crlf
  | verbose
  deriving DecidableEq, Repr

def Flag.ofChar? : Char → Option Flag
  | 'i' => some caseless
  | 'm' => some multiLine
  | 's' => some dotAll
  | 'U' => some swapGreed
  | 'u' => some unicode
  | 'R' => some crlf
  | 'x' => some verbose
  | _ => none

inductive FlagItem where
  /-- The flags behind it are switched off. -/
  | negation
  | flag (f : Flag)
  deriving DecidableEq, Repr

abbrev Flags := List FlagItem

/-- Whether a flag is switched on or off, if it is mentioned. -/
def Flags.state? (fs : Flags) (f : Flag) : Option Bool :=
  if fs.contains (.flag f) then some !((fs.takeWhile (· ≠ .flag f)).contains .negation)
  else none

/-! ## Atoms -/

/-- A place that depends on the characters before and behind it being parts of words. -/
inductive Edge where
  | either
  | neither
  | start
  | stop
  /-- What is before it is no part of a word. -/
  | startHalf
  /-- What is behind it is no part of a word. -/
  | stopHalf
  deriving DecidableEq, Repr

inductive Anchor where
  | lineStart
  | lineEnd
  | textStart
  | textEnd
  | word (e : Edge)
  deriving DecidableEq, Repr

inductive Shorthand where
  | digit
  | space
  | word
  deriving DecidableEq, Repr

inductive PropertyQuery where
  | named (name : String)
  | valued (name value : String)
  deriving DecidableEq, Repr

inductive Atom where
  | char (c : Char)
  /-- A character given by two hexadecimal digits, so that it may stand for a byte. -/
  | code (c : Char)
  | any
  | anchor (a : Anchor)
  | shorthand (s : Shorthand) (negated : Bool)
  | property (q : PropertyQuery) (negated : Bool)
  deriving DecidableEq, Repr

/-- The character that an atom writes. -/
def Atom.literal? : Atom → Option Char
  | char c | code c => some c
  | _ => none

/-! ## Sets -/

inductive AsciiName where
  | alnum
  | alpha
  | ascii
  | blank
  | cntrl
  | digit
  | graph
  | lower
  | print
  | punct
  | space
  | upper
  | word
  | xdigit
  deriving DecidableEq, Repr

namespace AsciiName

def all : List AsciiName :=
  [alnum, alpha, ascii, blank, cntrl, digit, graph, lower, print, punct, space, upper, word,
    xdigit]

def name : AsciiName → String
  | alnum => "alnum"
  | alpha => "alpha"
  | ascii => "ascii"
  | blank => "blank"
  | cntrl => "cntrl"
  | digit => "digit"
  | graph => "graph"
  | lower => "lower"
  | print => "print"
  | punct => "punct"
  | space => "space"
  | upper => "upper"
  | word => "word"
  | xdigit => "xdigit"

def named? (cs : List Char) : Option AsciiName := all.find? fun n => n.name.toList = cs

end AsciiName

inductive SetOperator where
  | inter
  | diff
  | symmDiff
  deriving DecidableEq, Repr

/-- What stands between brackets. -/
inductive SetExpr where
  | nothing (place : Nat)
  | atom (span : Span) (a : Atom)
  | range (first : Span × Atom) (last : Span × Atom)
  | ascii (span : Span) (name : AsciiName) (negated : Bool)
  | bracketed (span : Span) (negated : Bool) (inner : SetExpr)
  | union (items : List SetExpr)
  | combined (op : SetOperator) (left right : SetExpr)

namespace SetExpr

def span : SetExpr → Span
  | nothing i => ⟨i, i⟩
  | atom s _ | ascii s _ _ | bracketed s _ _ => s
  | range f l => ⟨f.1.start, l.1.stop⟩
  | union es => spanOf es
  | combined _ l r => ⟨l.span.start, r.span.stop⟩
where
  spanOf : List SetExpr → Span
    | [] => ⟨0, 0⟩
    | [e] => e.span
    | e :: es => ⟨e.span.start, (spanOf es).stop⟩

/-- Several items as one. -/
def ofItems (place : Nat) : List SetExpr → SetExpr
  | [] => nothing place
  | [e] => e
  | es => union es

end SetExpr

/-! ## Expressions -/

inductive Expr where
  | nothing (place : Nat)
  /-- Flags for what follows in the same group. -/
  | flags (span : Span) (fs : Flags)
  | atom (span : Span) (a : Atom)
  | set (span : Span) (negated : Bool) (inner : SetExpr)
  | repeated (span : Span) (e : Expr) (least : Nat) (most : Option Nat)
  /-- A group, with the flags that hold inside it. -/
  | group (span : Span) (fs : Flags) (e : Expr)
  | concat (span : Span) (es : List Expr)
  | choice (span : Span) (es : List Expr)

namespace Expr

def span : Expr → Span
  | nothing i => ⟨i, i⟩
  | flags s _ | atom s _ | set s _ _ | repeated s _ _ _ | group s _ _ | concat s _
  | choice s _ => s

/-- Whether there is something that can be repeated. -/
def isRepeatable : Expr → Bool
  | nothing _ | flags _ _ => false
  | _ => true

/-- Several expressions in a row as one. -/
def ofRow (span : Span) : List Expr → Expr
  | [] => nothing span.start
  | [e] => e
  | es => concat span es

end Expr

/-! ## Depth -/

/-- How deep expressions may be nested. -/
def nestLimit : Nat := 250

mutual

/-- The first part of a set that is nested deeper than `room` levels. -/
def SetExpr.tooDeep (room : Nat) : SetExpr → Option Span
  | .bracketed span _ inner => if room = 0 then some span else inner.tooDeep (room - 1)
  | .union es =>
    if room = 0 then some (SetExpr.span.spanOf es) else SetExpr.anyTooDeep (room - 1) es
  | .combined op l r =>
    if room = 0 then some (SetExpr.combined op l r).span
    else (l.tooDeep (room - 1)).or (r.tooDeep (room - 1))
  | _ => none

def SetExpr.anyTooDeep (room : Nat) : List SetExpr → Option Span
  | [] => none
  | e :: es => (e.tooDeep room).or (SetExpr.anyTooDeep room es)

end

mutual

/-- The first part of an expression that is nested deeper than `room` levels. -/
def Expr.tooDeep (room : Nat) : Expr → Option Span
  | .set span _ inner => if room = 0 then some span else inner.tooDeep (room - 1)
  | .repeated span e _ _ | .group span _ e =>
    if room = 0 then some span else e.tooDeep (room - 1)
  | .concat span es | .choice span es =>
    if room = 0 then some span else Expr.anyTooDeep (room - 1) es
  | _ => none

def Expr.anyTooDeep (room : Nat) : List Expr → Option Span
  | [] => none
  | e :: es => (e.tooDeep room).or (Expr.anyTooDeep room es)

end

end Dialogue.Regex
