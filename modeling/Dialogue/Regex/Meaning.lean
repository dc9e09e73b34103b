import Dialogue.Regex.Basic
import Dialogue.Regex.Reader.Pattern
import Dialogue.Text.Casing
import Dialogue.Text.Writing

/-!
# What expressions mean

From written expressions to regular expressions, under the flags in force. Flags hold to the
end of their group, also in the alternatives behind them. Without the Unicode flag a set is
one of bytes, and may not hold a byte that is no character by itself.
-/

namespace Dialogue.Regex

open Text (CharSet)

/-- The flags in force that matter for whether there is a match. -/
structure Modes where
  caseless : Bool := false
  multiLine : Bool := false
  dotAll : Bool := false
  crlf : Bool := false
  unicode : Bool := true
  deriving DecidableEq, Repr

def Modes.change (m : Modes) (fs : Flags) : Modes where
  caseless := (fs.state? .caseless).getD m.caseless
  multiLine := (fs.state? .multiLine).getD m.multiLine
  dotAll := (fs.state? .dotAll).getD m.dotAll
  crlf := (fs.state? .crlf).getD m.crlf
  unicode := (fs.state? .unicode).getD m.unicode

abbrev Meaning := Except Malformed

def refuse {α : Type} (fault : Fault) (span : Span) : Meaning α := .error ⟨fault, span, none⟩

/-! ## Named sets -/

def ofPairs (cs : List (Char × Char)) : CharSet :=
  CharSet.ofRanges (cs.map fun r => (r.1.toNat, r.2.toNat))

def AsciiName.set : AsciiName → CharSet
  | alnum => ofPairs [('0', '9'), ('A', 'Z'), ('a', 'z')]
  | alpha => ofPairs [('A', 'Z'), ('a', 'z')]
  | ascii => ofPairs [('\x00', '\x7f')]
  | blank => ofPairs [('\t', '\t'), (' ', ' ')]
  | cntrl => ofPairs [('\x00', '\x1f'), ('\x7f', '\x7f')]
  | digit => ofPairs [('0', '9')]
  | graph => ofPairs [('!', '~')]
  | lower => ofPairs [('a', 'z')]
  | print => ofPairs [(' ', '~')]
  | punct => ofPairs [('!', '/'), (':', '@'), ('[', '\x60'), ('\x7b', '~')]
  | space => ofPairs [('\t', '\r'), (' ', ' ')]
  | upper => ofPairs [('A', 'Z')]
  | word => ofPairs [('0', '9'), ('A', 'Z'), ('_', '_'), ('a', 'z')]
  | xdigit => ofPairs [('0', '9'), ('A', 'F'), ('a', 'f')]

def Shorthand.set (unicode : Bool) : Shorthand → CharSet
  | digit => if unicode then Text.decimalDigits else AsciiName.digit.set
  | space => if unicode then Text.withProperty "whitespace" else AsciiName.space.set
  | word => if unicode then Text.wordChars else AsciiName.word.set

/-- A name in lower case, without blanks, hyphens and underscores and without `is` in front;
`isc` is another name of `c`. -/
def plainName (s : String) : String :=
  let (stripped, cs) := match s.toList with
    | a :: b :: cs => if a.toLower = 'i' ∧ b.toLower = 's' then (true, cs) else (false, a :: b :: cs)
    | cs => (false, cs)
  let kept := (cs.filter fun c => c ≠ ' ' && c ≠ '_' && c ≠ '-' && c.toNat < 0x80).map Char.toLower
  String.ofList (if stripped && kept = ['c'] then ['i', 's', 'c'] else kept)

/-- The characters of a category, where some names are for more than categories. -/
def generalCategory? (name : String) : Option CharSet :=
  if name = "any" then some CharSet.all
  else if name = "assigned" then (Text.category? "cn").map CharSet.compl
  else if name = "ascii" then some AsciiName.ascii.set
  else Text.category? name

/-- The characters with a named property, category or script. `sc` is the category of
currency symbols here. -/
def PropertyQuery.set : PropertyQuery → Except Fault CharSet
  | named name =>
    let name := plainName name
    match ((Text.property? name).or (generalCategory? name)).or (Text.script? name) with
    | some s => .ok s
    | none => .error .propertyUnknown
  | valued name value =>
    let find (found : Option CharSet) : Except Fault CharSet :=
      match found with
      | some s => .ok s
      | none => .error .propertyValueUnknown
    let name := plainName name
    let value := plainName value
    if name = "gc" ∨ name = "generalcategory" then find (generalCategory? value)
    else if name = "sc" ∨ name = "script" then find (Text.script? value)
    else if name = "scx" ∨ name = "scriptextensions" then find (Text.usedWithScript? value)
    else if (Text.property? name).isSome then .error .propertyValueUnknown
    else .error .propertyUnknown

/-! ## Sets -/

/-- All that a set may hold: characters, or bytes. -/
def Modes.domain (m : Modes) : CharSet := if m.unicode then CharSet.all else ⟨[(0, 0xFF)]⟩

def Modes.fold (m : Modes) (s : CharSet) : CharSet :=
  if !m.caseless then s else if m.unicode then s.foldCase else s.foldAsciiCase

def Modes.negate (m : Modes) (negated : Bool) (s : CharSet) : CharSet :=
  if negated then m.domain.diff s else s

/-- A set as it can stand in an expression: one of bytes must be of ASCII. -/
def Modes.checked (m : Modes) (span : Span) (s : CharSet) : Meaning CharSet :=
  if m.unicode || s.isAscii then .ok s else refuse .partOfCharacter span

/-- The character that is meant by one that is written. Without the Unicode flag, a code
above ASCII is a byte. -/
def Modes.literal (m : Modes) (span : Span) : Atom → Meaning Char
  | .code c =>
    if m.unicode || c.toNat < 0x80 then .ok c else refuse .partOfCharacter span
  | a => .ok (a.literal?.getD ' ')

/-- The same in a set, where only bytes can stand without the Unicode flag. -/
def Modes.setLiteral (m : Modes) (span : Span) (a : Atom) : Meaning Char := do
  let c ← m.literal span a
  if m.unicode || c.toNat < 0x80 then return c
  refuse .unicodeOff span

def Modes.property (m : Modes) (span : Span) (q : PropertyQuery) (negated : Bool) :
    Meaning CharSet :=
  if !m.unicode then refuse .unicodeOff span
  else
    match q.set with
    | .ok s => .ok (m.negate negated (m.fold s))
    | .error fault => refuse fault span

def Modes.shorthand (m : Modes) (span : Span) (s : Shorthand) (negated : Bool) :
    Meaning CharSet :=
  m.checked span (m.negate negated (s.set m.unicode))

mutual

def SetExpr.meaning (m : Modes) : SetExpr → Meaning CharSet
  | .nothing _ => .ok CharSet.empty
  | .atom span (.shorthand s negated) => m.shorthand span s negated
  | .atom span (.property q negated) => m.property span q negated
  | .atom span a => do return CharSet.single (← m.setLiteral span a)
  | .range first last => do
    let lo ← m.setLiteral first.1 first.2
    let hi ← m.setLiteral last.1 last.2
    return ofPairs [(lo, hi)]
  | .ascii span name negated => m.checked span (m.negate negated (m.fold name.set))
  | .bracketed span negated inner => do
    m.checked span (m.negate negated (m.fold (← inner.meaning m)))
  | .union items => SetExpr.unionMeaning m items
  | .combined op left right => do
    let a := m.fold (← left.meaning m)
    let b := m.fold (← right.meaning m)
    return match op with
      | .inter => a.inter b
      | .diff => a.diff b
      | .symmDiff => a.symmDiff b

def SetExpr.unionMeaning (m : Modes) : List SetExpr → Meaning CharSet
  | [] => .ok CharSet.empty
  | e :: es => do
    let a ← e.meaning m
    return a.union (← SetExpr.unionMeaning m es)

end

/-! ## Expressions -/

def Modes.anchor (m : Modes) : Anchor → Look
  | .textStart => .textStart
  | .textEnd => .textEnd
  | .lineStart =>
    if m.multiLine then .lineStart (if m.crlf then .crlf else .lf) else .textStart
  | .lineEnd => if m.multiLine then .lineEnd (if m.crlf then .crlf else .lf) else .textEnd
  | .word e => .edge (if m.unicode then .unicode else .ascii) e

/-- The characters that the dot matches. -/
def Modes.dot (m : Modes) : CharSet :=
  if m.dotAll then CharSet.all
  else if m.crlf then (CharSet.ofChars ['\n', '\r']).compl
  else (CharSet.single '\n').compl

def Modes.atom (m : Modes) (span : Span) : Atom → Meaning Regex
  | .any => if m.unicode then .ok (.set m.dot) else refuse .partOfCharacter span
  | .anchor a => .ok (.look (m.anchor a))
  | .shorthand s negated => do return .set (← m.shorthand span s negated)
  | .property q negated => do return .set (← m.property span q negated)
  | a => do return .set (m.fold (CharSet.single (← m.literal span a)))

mutual

/-- What an expression means, and the flags in force behind it. -/
def Expr.meaning (m : Modes) : Expr → Meaning (Regex × Modes)
  | .nothing _ => .ok (.empty, m)
  | .flags _ fs => .ok (.empty, m.change fs)
  | .atom span a => do return (← m.atom span a, m)
  | .set span negated inner => do
    return (.set (← m.checked span (m.negate negated (m.fold (← inner.meaning m)))), m)
  | .repeated _ e least most => do
    let (r, m) ← e.meaning m
    return (.times r least most, m)
  | .group _ fs e => do return ((← e.meaning (m.change fs)).1, m)
  | .concat _ es => Expr.rowMeaning m es
  | .choice _ es => Expr.choiceMeaning m es

def Expr.rowMeaning (m : Modes) : List Expr → Meaning (Regex × Modes)
  | [] => .ok (.empty, m)
  | e :: es => do
    let (a, m) ← e.meaning m
    let (b, m) ← Expr.rowMeaning m es
    return (if es.isEmpty then a else .seq a b, m)

def Expr.choiceMeaning (m : Modes) : List Expr → Meaning (Regex × Modes)
  | [] => .ok (.empty, m)
  | e :: es => do
    let (a, m) ← e.meaning m
    if es.isEmpty then return (a, m)
    let (b, m) ← Expr.choiceMeaning m es
    return (.alt a b, m)

end

end Dialogue.Regex
