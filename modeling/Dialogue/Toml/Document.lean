import Dialogue.Toml.Atom
import Dialogue.Toml.Text
import Dialogue.Toml.Value

/-!
# TOML documents

`parse` reads a document: lines with a header, a key and its value, or nothing, each perhaps
with a comment. Arrays and inline tables nest to a depth of 79.
-/

namespace Dialogue.Toml

/-! ## Blanks and comments -/

/-- What follows a comment, if there is one at the front. -/
def skipComment : List Char → List Char
  | '#' :: cs => cs.dropWhile isText
  | cs => cs

/-- What follows the end of a line, where blanks and a comment may come first. -/
def finishLine (cs : List Char) : Option (List Char) :=
  match skipComment (skipSpace cs) with
  | [] => some []
  | rest => lineEnd? rest

/-- What follows blanks, comments and line ends. -/
def skipGap : (fuel : Nat) → List Char → List Char
  | 0, cs => cs
  | fuel + 1, cs =>
    match lineEnd? (skipComment (skipSpace cs)) with
    | some rest => skipGap fuel rest
    | none => skipSpace cs

/-! ## Values -/

mutual

/-- A value, with room for `depth` levels of nesting. -/
def value (fuel depth : Nat) (cs : List Char) : Option (Value × List Char) :=
  match fuel with
  | 0 => none
  | fuel + 1 =>
    match cs with
    | '"' :: _ => (text cs).map fun r => (.string r.1, r.2)
    | '\'' :: _ => (text cs).map fun r => (.string r.1, r.2)
    | '[' :: rest =>
      match depth with
      | 0 => none
      | depth + 1 => items fuel depth [] (skipGap rest.length rest)
    | '\x7b' :: rest =>
      match depth with
      | 0 => none
      | depth + 1 =>
        match skipSpace rest with
        | '\x7d' :: rest => some (.table .inline [], rest)
        | rest => pairs fuel depth [] rest
    | _ => atom cs

/-- The items of an array up to its end. -/
def items (fuel depth : Nat) (found : List Value) (cs : List Char) :
    Option (Value × List Char) :=
  match fuel with
  | 0 => none
  | fuel + 1 =>
    match cs with
    | ']' :: rest => some (.array found, rest)
    | _ =>
      match value fuel depth cs with
      | none => none
      | some (v, rest) =>
        match skipGap rest.length rest with
        | ',' :: rest => items fuel depth (found ++ [v]) (skipGap rest.length rest)
        | ']' :: rest => some (.array (found ++ [v]), rest)
        | _ => none

/-- The entries of an inline table up to its end. -/
def pairs (fuel depth : Nat) (found : Entries) (cs : List Char) : Option (Value × List Char) :=
  match fuel with
  | 0 => none
  | fuel + 1 =>
    match key cs with
    | some ((path, k), '=' :: rest) =>
      match value fuel depth (skipSpace rest) with
      | none => none
      | some (v, rest) =>
        match found.add path k v .header, skipSpace rest with
        | some found, ',' :: rest => pairs fuel depth found rest
        | some found, '\x7d' :: rest => some (.table .inline found, rest)
        | _, _ => none
    | _ => none

end

/-! ## Lines -/

/-- The document so far, and the header that the next line stands under. -/
structure State where
  entries : Entries
  header : List String

/-- The header on a line after its opening brackets, and what follows the line. -/
def header (closing : List Char) (cs : List Char) :
    Option ((List String × String) × List Char) :=
  match key cs with
  | some (k, rest) =>
    if closing.isPrefixOf rest then (finishLine (rest.drop closing.length)).map (k, ·) else none
  | none => none

/-- One line of a document. -/
def line (s : State) (cs : List Char) : Option (State × List Char) :=
  match skipSpace cs with
  | '[' :: '[' :: rest => do
    let ((path, k), rest) ← header [']', ']'] rest
    pure (⟨← s.entries.openElement path k, path ++ [k]⟩, rest)
  | '[' :: rest => do
    let ((path, k), rest) ← header [']'] rest
    pure (⟨← s.entries.openTable path k, path ++ [k]⟩, rest)
  | cs =>
    match finishLine cs with
    | some rest => some (s, rest)
    | none => do
      let ((path, k), rest) ← key cs
      let rest ← expect '=' rest
      let (v, rest) ← value (2 * rest.length + 2) 79 (skipSpace rest)
      let rest ← finishLine rest
      pure ({ s with entries := ← s.entries.assign s.header path k v }, rest)

def lines : (fuel : Nat) → State → List Char → Option Entries
  | 0, _, _ => none
  | fuel + 1, s, cs =>
    if cs.isEmpty then some s.entries
    else
      match line s cs with
      | some (s, rest) => lines fuel s rest
      | none => none

/-- The entries of a document, which may begin with a byte order mark. -/
def parse (document : String) : Option Entries :=
  let cs := match document.toList with
    | '\uFEFF' :: cs => cs
    | cs => cs
  lines (cs.length + 1) ⟨[], []⟩ cs

end Dialogue.Toml
