import Dialogue.Assembly
import Dialogue.Charset.Codec
import Dialogue.Cipher
import Dialogue.Container
import Dialogue.Replacements

/-!
# Relocation

Rebuilding a code section with replaced strings. Instructions are replayed in order: a
string load with a replacement becomes its opcode, the encrypted text, a zero byte and the
trailer it had; every other instruction is copied. A jump entry that refers to an
instruction follows it to its new address and keeps its flag; other entries stay as they
are.
-/

namespace Dialogue

/-- What a relocation did besides rebuilding the code. -/
structure RelocationReport where
  /-- The number of string loads replaced. -/
  replaced : Nat
  /-- The keys of the replacements at which no string load starts. -/
  ignored : List Nat
  /-- The number of jump entries that refer to an instruction. -/
  patched : Nat
  /-- The indices of the other jump entries. -/
  unmatched : List Nat
  deriving DecidableEq, Repr

/-- The report of an import that had nothing to do. -/
def RelocationReport.empty : RelocationReport := ⟨0, [], 0, []⟩

structure Relocated where
  code : Bytes
  jumps : List JumpEntry
  report : RelocationReport
  deriving DecidableEq, Repr

namespace Relocation

/-- The replacement for an instruction, if it is a string load and has one. -/
def replacement? (m : Replacements) (i : Instruction) : Option String :=
  if i.isStringLoad then m.get? i.address else none

/-- The new bytes of an instruction, and whether they hold a replacement. -/
def rebuild (charset : Charset) (m : Replacements) (code : Bytes) (i : Instruction) :
    Except ScriptError (Bytes × Bool) :=
  match replacement? m i with
  | none => .ok (i.bytes code, false)
  | some text =>
    match charset.encode text with
    | .error e => .error (.charset e)
    | .ok plain => .ok (i.opcode :: Cipher.encrypt plain ++ 0 :: i.trailer code, true)

/-- Instructions that have been replayed. -/
structure Replay where
  /-- The new addresses and bytes. -/
  pieces : List (Nat × Bytes)
  /-- The number of string loads replaced. -/
  replaced : Nat
  deriving DecidableEq, Repr

/-- Replay the instructions, the first of which comes to `address`. -/
def emit (charset : Charset) (m : Replacements) (code : Bytes) (address : Nat) :
    List Instruction → Except ScriptError Replay
  | [] =>
    if addressLimit < address then .error (.structural address .addressOverflow)
    else .ok ⟨[], 0⟩
  | i :: is =>
    if addressLimit < address then .error (.structural address .addressOverflow)
    else match rebuild charset m code i with
      | .error e => .error e
      | .ok (bs, new) =>
        match emit charset m code (address + bs.length) is with
        | .error e => .error e
        | .ok rest => .ok ⟨(address, bs) :: rest.pieces, new.toNat + rest.replaced⟩

/-- The jump entry that follows its instruction, if it refers to one. -/
def patch? (asm : Assembly) (addresses : Array Nat) (e : JumpEntry) : Option JumpEntry :=
  (asm.find? e.target).map fun r => e.withTarget (addresses.getD r.1 0)

/-- A jump table that has been patched. -/
structure Table where
  jumps : List JumpEntry
  /-- The number of entries that follow an instruction. -/
  patched : Nat
  /-- The indices of the entries that were left as they are. -/
  unmatched : List Nat
  deriving DecidableEq, Repr

/-- Patch the jump entries, the first of which has the index `n`. -/
def patchFrom (asm : Assembly) (addresses : Array Nat) (n : Nat) : List JumpEntry → Table
  | [] => ⟨[], 0, []⟩
  | e :: es =>
    let rest := patchFrom asm addresses (n + 1) es
    match patch? asm addresses e with
    | some e' => ⟨e' :: rest.jumps, rest.patched + 1, rest.unmatched⟩
    | none => ⟨e :: rest.jumps, rest.patched, n :: rest.unmatched⟩

/-- The keys at which no string load starts. -/
def ignored (asm : Assembly) (m : Replacements) : List Nat :=
  m.keys.filter fun a => !asm.loadsStringAt a

/-- What a successful relocation reports, after the keys it ignores. -/
def summary (oldSize : Nat) (r : Relocated) : List Notice :=
  let count := r.report.unmatched.length
  (if count = 0 then [] else
    [⟨.debug, .relocation,
      s!"{count} jump entries match no instruction and were left unchanged"⟩]) ++
  [⟨.debug, .relocation, s!"relocated: {r.report.replaced} strings replaced, " ++
    s!"code {oldSize} -> {r.code.length} bytes"⟩]

end Relocation

/-- Rebuild the code of `c`, whose assembly is `asm`, with the replacements `m`. -/
def relocate (charset : Charset) (c : Container) (asm : Assembly) (m : Replacements) :
    Except ScriptError Relocated :=
  match Relocation.emit charset m c.code Assembly.headerSize asm.instructions.toList with
  | .error e => .error e
  | .ok replay =>
    let table := Relocation.patchFrom asm (replay.pieces.map (·.1)).toArray 0 c.jumps
    .ok {
      code := c.code.take Assembly.headerSize ++ replay.pieces.flatMap (·.2)
      jumps := table.jumps
      report := {
        replaced := replay.replaced
        ignored := Relocation.ignored asm m
        patched := table.patched
        unmatched := table.unmatched } }

/-- What `relocate` reports. -/
def Relocation.notices (charset : Charset) (c : Container) (asm : Assembly) (m : Replacements) :
    List Notice :=
  ((Relocation.ignored asm m).map fun a =>
    ⟨.warn, .relocation, s!"no string load at {Hex.word a}, translation ignored"⟩) ++
  match relocate charset c asm m with
  | .error _ => []
  | .ok r => Relocation.summary c.code.length r

end Dialogue
