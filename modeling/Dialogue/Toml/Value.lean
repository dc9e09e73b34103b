/-!
# TOML values and tables

A document is a table of entries in the order they were written. `assign` adds a key with
its value to the table under a header, `openTable` and `openElement` start the tables of
`[header]` and `[[header]]` lines. Each fails where the standard forbids the key or header:
a table has one header only, a key one value, and tables made by dotted keys or written
inline are not extended from elsewhere.
-/

namespace Dialogue.Toml

/-- How a table came about. -/
inductive Origin where
  /-- It has a header of its own, or is the document. -/
  | header
  /-- A longer header goes through it. -/
  | implied
  /-- A dotted key goes through it. -/
  | dotted
  /-- It is written in braces. -/
  | inline
  deriving DecidableEq, Repr

inductive Value where
  | string (text : String)
  | integer (value : Int)
  | float (text : String)
  | boolean (value : Bool)
  | datetime (text : String)
  | array (items : List Value)
  | table (origin : Origin) (entries : List (String × Value))
  /-- The tables of an array of tables, in order. -/
  | tables (elements : List Value)

abbrev Entries := List (String × Value)

namespace Entries

def replace (es : Entries) (key : String) (v : Value) : Entries :=
  es.map fun e => if e.1 = key then (key, v) else e

/-- Change the table at the end of a path by `act`, creating the tables missing on the way. A
dotted path does not lead through tables that have a header. -/
def update (dotted : Bool) (act : Origin → Entries → Option Entries) :
    List String → Origin → Entries → Option Entries
  | [], origin, es => act origin es
  | key :: path, _, es =>
    match es.lookup key with
    | none =>
      let origin := if dotted then .dotted else .implied
      (update dotted act path origin []).map fun sub => es ++ [(key, .table origin sub)]
    | some (.table origin sub) =>
      if origin = .inline ∨ (dotted ∧ origin = .header) then none
      else (update dotted act path origin sub).map fun sub => es.replace key (.table origin sub)
    | some (.tables elements) =>
      match elements.getLast? with
      | some (.table origin sub) =>
        (update dotted act path origin sub).map fun sub =>
          es.replace key (.tables (elements.dropLast ++ [.table origin sub]))
      | _ => none
    | some _ => none

/-- Add an entry to a table that a path of dotted keys leads to. -/
def add (path : List String) (key : String) (v : Value) (origin : Origin) (es : Entries) :
    Option Entries :=
  update true (fun origin es =>
    if decide (origin = .dotted) = path.isEmpty ∨ (es.lookup key).isSome then none
    else some (es ++ [(key, v)])) path origin es

/-- Add an entry under a header. -/
def assign (header path : List String) (key : String) (v : Value) (es : Entries) :
    Option Entries :=
  update false (add path key v) header .header es

/-- Start the table of a header, which is the path with the key at its end. -/
def openTable (path : List String) (key : String) (es : Entries) : Option Entries :=
  update false (fun _ es =>
    match es.lookup key with
    | none => some (es ++ [(key, .table .header [])])
    | some (.table .implied sub) => some (es.replace key (.table .header sub))
    | some _ => none) path .header es

/-- Start the next table of an array of tables. -/
def openElement (path : List String) (key : String) (es : Entries) : Option Entries :=
  update false (fun _ es =>
    match es.lookup key with
    | none => some (es ++ [(key, .tables [.table .header []])])
    | some (.tables elements) =>
      some (es.replace key (.tables (elements ++ [.table .header []])))
    | some _ => none) path .header es

end Entries

end Dialogue.Toml
