import Dialogue.Script

/-!
# Listings

A listing shows a whole script: the code's header, every row of the jump table, and every
instruction with the text it loads. A text that does not decode is left out, with a
warning.
-/

namespace Dialogue

namespace Listing

structure Jump where
  index : Nat
  target : Nat
  flag : Bool
  aux : UInt16
  /-- Whether an instruction starts at the target. -/
  resolved : Bool
  deriving DecidableEq, Repr

structure Entry where
  address : Nat
  length : Nat
  opcode : Opcode
  kind : Kind
  hasExtra : Bool
  text : Option String
  deriving DecidableEq, Repr

end Listing

structure Listing where
  version : UInt8
  marker : UInt16
  codeSize : Nat
  jumps : List Listing.Jump
  entries : List Listing.Entry
  deriving DecidableEq, Repr

namespace Listing

def jump (asm : Assembly) (row : Row) (index : Nat) : Jump where
  index := index
  target := row.jump.target
  flag := row.jump.flag
  aux := row.aux
  resolved := (asm.find? row.jump.target).isSome

def entry (s : Script) (charset : Charset) (i : Instruction) : Entry where
  address := i.address
  length := i.length
  opcode := i.opcode
  kind := i.kind
  hasExtra := i.hasExtra
  text := (s.text? charset i).bind Except.toOption

def ofScript (s : Script) (charset : Charset) : Listing where
  version := s.assembly.version
  marker := s.assembly.marker
  codeSize := s.container.code.length
  jumps := s.container.rows.zipIdx.map fun r => jump s.assembly r.1 r.2
  entries := s.assembly.instructions.toList.map (entry s charset)

/-- What listing a script reports: the texts that do not decode. -/
def notices (s : Script) (charset : Charset) : List Notice :=
  s.assembly.instructions.toList.filterMap fun i =>
    match s.text? charset i with
    | some (.error e) => some ⟨.warn, .listing, s!"0x{Hex.word i.address}: {e.message}"⟩
    | _ => none

end Listing

end Dialogue
