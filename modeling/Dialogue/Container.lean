import Dialogue.Bytes
import Dialogue.JumpEntry
import Dialogue.Log.Notice
import Dialogue.ScriptError

/-!
# Containers

A script file holds a table and a code section. On disk, little-endian: the number of table
rows in 32 bits, the jump entries of all rows, the auxiliary values of all rows in 16 bits
each, and the code up to the end of the file.
-/

namespace Dialogue

/-- A row of the table: a jump entry and a value that is carried along. -/
structure Row where
  jump : JumpEntry
  aux : UInt16
  deriving DecidableEq, Repr

structure Container where
  rows : List Row
  code : Bytes
  deriving DecidableEq, Repr

namespace Container

def jumps (c : Container) : List JumpEntry := c.rows.map (·.jump)

def aux (c : Container) : List UInt16 := c.rows.map (·.aux)

/-- A container from its columns, which must have one length. -/
def ofColumns (jumps : List JumpEntry) (aux : List UInt16) (code : Bytes) :
    Except ScriptError Container :=
  if jumps.length = aux.length then .ok ⟨List.zipWith Row.mk jumps aux, code⟩
  else .error (.structural 0 (.tablesDiffer jumps.length aux.length))

/-- The same auxiliary values with new jump entries and new code. -/
def replaceCode (c : Container) (jumps : List JumpEntry) (code : Bytes) : Container :=
  ⟨List.zipWith Row.mk jumps c.aux, code⟩

/-! ## The file format -/

/-- The bytes that one row takes. -/
def rowSize : Nat := 6

def toBytes (c : Container) : Bytes :=
  Bytes.ofWord32 (UInt32.ofNat c.rows.length) ++
    c.jumps.flatMap (fun e => Bytes.ofWord32 e.raw) ++ c.aux.flatMap Bytes.ofWord16 ++ c.code

/-- The first `count` jump entries and what follows them. -/
def takeJumps : (count : Nat) → Bytes → List JumpEntry × Bytes
  | count + 1, b₀ :: b₁ :: b₂ :: b₃ :: bs =>
    let r := takeJumps count bs
    (JumpEntry.ofRaw (Bytes.word32 b₀ b₁ b₂ b₃) :: r.1, r.2)
  | _, bs => ([], bs)

/-- The first `count` auxiliary values and what follows them. -/
def takeAux : (count : Nat) → Bytes → List UInt16 × Bytes
  | count + 1, b₀ :: b₁ :: bs =>
    let r := takeAux count bs
    (Bytes.word16 b₀ b₁ :: r.1, r.2)
  | _, bs => ([], bs)

def parse (file : Bytes) : Except ScriptError Container :=
  match file with
  | b₀ :: b₁ :: b₂ :: b₃ :: rest =>
    let count := (Bytes.word32 b₀ b₁ b₂ b₃).toNat
    if rest.length < count * rowSize then
      .error (.structural 4 (.tableTooLong count rest.length))
    else
      let jumps := takeJumps count rest
      let aux := takeAux count jumps.2
      .ok ⟨List.zipWith Row.mk jumps.1 aux.1, aux.2⟩
  | short => .error (.structural 0 (.endOfData .word32 short.length))

/-- What parsing `file` reports. -/
def notices (file : Bytes) : List Notice :=
  match parse file with
  | .ok c =>
    let count := c.rows.length
    [⟨.trace, .container, s!"container: {count} table entries ({count * rowSize} bytes)"⟩]
  | .error _ => []

end Container

end Dialogue
