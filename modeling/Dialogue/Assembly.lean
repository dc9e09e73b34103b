import Dialogue.Instruction.Read
import Dialogue.Log.Notice

/-!
# Assemblies

A code section is a version byte, a 16-bit marker, and instructions one after the other up
to its end. `decode` lists the instructions and checks what they add up to, `find?` looks one
up by its address.
-/

namespace Dialogue

/-- The greatest address: a jump entry has 31 bits for it. -/
def addressLimit : Nat := 0x7FFFFFFF

structure Assembly where
  version : UInt8
  marker : UInt16
  instructions : Array Instruction
  deriving DecidableEq, Repr

namespace Assembly

/-- The size of version and marker. -/
def headerSize : Nat := 3

/-- The marker of every known script. Others are accepted. -/
def usualMarker : UInt16 := 0x00AB

def stringLoads (asm : Assembly) : List Instruction :=
  asm.instructions.toList.filter (·.isStringLoad)

/-- The sum of the instructions' lengths. -/
def byteLength (asm : Assembly) : Nat :=
  asm.instructions.toList.foldr (fun i n => i.length + n) 0

def decode (code : Bytes) : Except ScriptError Assembly :=
  if addressLimit < code.length then .error (.structural 0 (.codeTooLong code.length))
  else match code with
    | [] => .error (.structural 0 (.endOfData .byte 0))
    | version :: b₀ :: b₁ :: body =>
      match Instruction.readAll headerSize body with
      | .error e => .error e
      | .ok is =>
        let asm : Assembly := ⟨version, Bytes.word16 b₀ b₁, is.toArray⟩
        if asm.byteLength = body.length then .ok asm
        else .error (.structural code.length (.lengthMismatch asm.byteLength body.length))
    | _ :: rest => .error (.structural 1 (.endOfData .word16 rest.length))

/-! ## Lookup -/

/-- The index of the instruction at `address`, sought by halving from `lo` up to `hi`. -/
def bisect (is : Array Instruction) (address lo hi : Nat) (h : hi ≤ is.size) : Option Nat :=
  if hlt : lo < hi then
    let mid := (lo + hi) / 2
    have hm : mid < is.size := by omega
    if is[mid].address = address then some mid
    else if is[mid].address < address then bisect is address (mid + 1) hi h
    else bisect is address lo mid (by omega)
  else none
  termination_by hi - lo

/-- The instruction that starts at `address`, with its index. -/
def find? (asm : Assembly) (address : Nat) : Option (Nat × Instruction) :=
  match bisect asm.instructions address 0 asm.instructions.size (Nat.le_refl _) with
  | some k => asm.instructions[k]?.map (k, ·)
  | none => none

/-- Whether a string load starts at `address`. -/
def loadsStringAt (asm : Assembly) (address : Nat) : Bool :=
  match asm.find? address with
  | some (_, i) => i.isStringLoad
  | none => false

/-! ## Notices -/

/-- What decoding `code` reports. -/
def notices (code : Bytes) : List Notice :=
  if addressLimit < code.length then [] else
  match code with
  | version :: b₀ :: b₁ :: body =>
    let marker := Hex.half (Bytes.word16 b₀ b₁).toNat
    let usual := Hex.half usualMarker.toNat
    [⟨.debug, .decoder, s!"code prefix: version={version} marker=0x{marker}"⟩] ++
    (if Bytes.word16 b₀ b₁ = usualMarker then [] else
      [⟨.warn, .decoder, s!"unusual code marker 0x{marker} (expected 0x{usual})"⟩]) ++
    ((Instruction.doubtfulOffsets headerSize body).map fun pos =>
      ⟨.trace, .decoder, s!"opcode 0x{Hex.byte Opcode.doubtful.toNat} at 0x{Hex.word pos}"⟩) ++
    match decode code with
    | .error _ => []
    | .ok asm =>
      let count := asm.instructions.size
      [⟨.debug, .decoder, s!"decoded {count} instructions, {asm.stringLoads.length} string loads"⟩]
  | _ => []

end Assembly

end Dialogue
