import Mathlib
import Dialogue.Listing
import Dialogue.Proofs.Session
import Dialogue.Proofs.Tiling

/-!
# Access to the code

A string load is its opcode, a payload without zeros, a zero byte and the extra block if there is
one (`Instruction.Loads`). Where payload and extra block lie is not stored but computed back from
the end of the instruction. `Checked` repeats what reads the code of a script, with a result `none`
wherever an end is no 32-bit word, a difference is below zero, a slice is not inside the code or an
index is not one of a new address. `Script.accesses_after` says that nothing of this happens in a
script that has been loaded and edited: every checked function gives what the plain one gives.
-/

namespace Dialogue

namespace Checked

/-! ## Instructions -/

/-- The difference, unless it is below zero. -/
def minus (m n : Nat) : Option Nat := if n ≤ m then some (m - n) else none

def slice (code : Bytes) (start stop : Nat) : Option Bytes :=
  if start ≤ stop ∧ stop ≤ code.length then some (Instruction.slice code start stop) else none

/-- The offset behind the last byte, if it is a 32-bit word. -/
def stop (i : Instruction) : Option Nat :=
  if i.stop < 0x100000000 then some i.stop else none

def trailerStart (i : Instruction) : Option Nat := do
  minus (← stop i) i.extraLength

def payloadRange (i : Instruction) : Option (Option (Nat × Nat)) :=
  if i.isStringLoad then do
    let last ← minus (← trailerStart i) 1
    return if i.address + 1 < last then some (i.address + 1, last) else none
  else some none

def bytes (i : Instruction) (code : Bytes) : Option Bytes := do
  slice code i.address (← stop i)

def trailer (i : Instruction) (code : Bytes) : Option Bytes := do
  slice code (← trailerStart i) (← stop i)

def payload (i : Instruction) (code : Bytes) : Option (Option Bytes) := do
  match ← payloadRange i with
  | none => return none
  | some r => return some (← slice code r.1 r.2)

/-! ## Texts -/

def text (s : Script) (charset : Charset) (i : Instruction) :
    Option (Option (Except CharsetError String)) := do
  return (← payload i s.container.code).map fun payload => charset.decode (Cipher.decrypt payload)

def textsOf (s : Script) (charset : Charset) :
    List Instruction → Option (Except CharsetError Artifact)
  | [] => some (.ok [])
  | i :: is => do
    match ← text s charset i with
    | none => textsOf s charset is
    | some (.error e) => return .error e
    | some (.ok text) =>
      match ← textsOf s charset is with
      | .error e => return .error e
      | .ok units => return .ok (⟨i.address, text⟩ :: units)

def exportText (s : Script) (charset : Charset) : Option (Except CharsetError Artifact) :=
  textsOf s charset s.assembly.stringLoads

def entry (s : Script) (charset : Charset) (i : Instruction) : Option Listing.Entry := do
  return ⟨i.address, i.length, i.opcode, i.kind, i.hasExtra,
    (← text s charset i).bind Except.toOption⟩

/-- Of a listing, only the entries read the code. -/
def listing (s : Script) (charset : Charset) : Option Listing := do
  return { Listing.ofScript s charset with
    entries := ← s.assembly.instructions.toList.mapM (entry s charset) }

/-! ## Relocation -/

def rebuild (charset : Charset) (m : Replacements) (code : Bytes) (i : Instruction) :
    Option (Except ScriptError (Bytes × Bool)) :=
  match Relocation.replacement? m i with
  | none => (bytes i code).map fun bs => .ok (bs, false)
  | some text =>
    match charset.encode text with
    | .error e => some (.error (.charset e))
    | .ok plain =>
      (trailer i code).map fun extra => .ok (i.opcode :: Cipher.encrypt plain ++ 0 :: extra, true)

def emit (charset : Charset) (m : Replacements) (code : Bytes) (address : Nat) :
    List Instruction → Option (Except ScriptError Relocation.Replay)
  | [] =>
    if addressLimit < address then some (.error (.structural address .addressOverflow))
    else some (.ok ⟨[], 0⟩)
  | i :: is =>
    if addressLimit < address then some (.error (.structural address .addressOverflow))
    else do
      match ← rebuild charset m code i with
      | .error e => return .error e
      | .ok (bs, new) =>
        match ← emit charset m code (address + bs.length) is with
        | .error e => return .error e
        | .ok rest => return .ok ⟨(address, bs) :: rest.pieces, new.toNat + rest.replaced⟩

def patch? (asm : Assembly) (addresses : Array Nat) (e : JumpEntry) : Option (Option JumpEntry) :=
  match asm.find? e.target with
  | none => some none
  | some (k, _) => addresses[k]?.map fun address => some (e.withTarget address)

def patchFrom (asm : Assembly) (addresses : Array Nat) (n : Nat) :
    List JumpEntry → Option Relocation.Table
  | [] => some ⟨[], 0, []⟩
  | e :: es => do
    let rest ← patchFrom asm addresses (n + 1) es
    match ← patch? asm addresses e with
    | some e' => return ⟨e' :: rest.jumps, rest.patched + 1, rest.unmatched⟩
    | none => return ⟨e :: rest.jumps, rest.patched, n :: rest.unmatched⟩

def relocate (charset : Charset) (c : Container) (asm : Assembly) (m : Replacements) :
    Option (Except ScriptError Relocated) := do
  let header ← slice c.code 0 Assembly.headerSize
  match ← emit charset m c.code Assembly.headerSize asm.instructions.toList with
  | .error e => return .error e
  | .ok replay =>
    let table ← patchFrom asm (replay.pieces.map (·.1)).toArray 0 c.jumps
    return .ok {
      code := header ++ replay.pieces.flatMap (·.2)
      jumps := table.jumps
      report := {
        replaced := replay.replaced
        ignored := Relocation.ignored asm m
        patched := table.patched
        unmatched := table.unmatched } }

end Checked

namespace Instruction

/-- The instruction lies in the code, and between its opcode and its extra block there is
another byte. -/
structure Placed (i : Instruction) (code : Bytes) : Prop where
  room : i.address + 2 + i.extraLength ≤ i.stop
  stop_le : i.stop ≤ code.length
  isWord : code.length < 0x100000000

theorem trailerStart_le_stop (i : Instruction) : i.trailerStart ≤ i.stop := Nat.sub_le ..

namespace Placed

variable {i : Instruction} {code : Bytes}

theorem stop_eq (h : i.Placed code) : Checked.stop i = some i.stop :=
  if_pos (Nat.lt_of_le_of_lt h.stop_le h.isWord)

theorem trailerStart_eq (h : i.Placed code) : Checked.trailerStart i = some i.trailerStart := by
  have hr := h.room
  rw [Checked.trailerStart, h.stop_eq]
  exact if_pos (by omega)

theorem le_trailerStart (h : i.Placed code) : i.address + 2 ≤ i.trailerStart := by
  have hr := h.room
  rw [trailerStart]
  omega

theorem payloadRange_eq (h : i.Placed code) : Checked.payloadRange i = some i.payloadRange := by
  have hr := h.le_trailerStart
  unfold Checked.payloadRange payloadRange
  by_cases hl : i.isStringLoad = true
  · rw [if_pos hl, h.trailerStart_eq]
    simp [Checked.minus, hl, (by omega : 1 ≤ i.trailerStart)]
  · simp [hl]

theorem bytes_eq (h : i.Placed code) : Checked.bytes i code = some (i.bytes code) := by
  have hr := h.room
  rw [Checked.bytes, h.stop_eq]
  exact if_pos ⟨by omega, h.stop_le⟩

theorem trailer_eq (h : i.Placed code) : Checked.trailer i code = some (i.trailer code) := by
  rw [Checked.trailer, h.trailerStart_eq, h.stop_eq]
  exact if_pos ⟨i.trailerStart_le_stop, h.stop_le⟩

theorem payload_eq (h : i.Placed code) : Checked.payload i code = some (i.payload? code) := by
  have hstop := i.trailerStart_le_stop
  have hle := h.stop_le
  rw [Checked.payload, h.payloadRange_eq, payload?]
  unfold payloadRange
  split
  · next hc =>
    -- the payload is not empty, so its range does not run backwards
    have hs : Checked.slice code (i.address + 1) (i.trailerStart - 1) =
        some (slice code (i.address + 1) (i.trailerStart - 1)) := if_pos ⟨by omega, by omega⟩
    simp [hs]
  · rfl

end Placed

end Instruction

namespace Checked

theorem mapM_eq_some {α β : Type} {f : α → Option β} {g : α → β} {l : List α}
    (h : ∀ a ∈ l, f a = some (g a)) : l.mapM f = some (l.map g) := by
  induction l with
  | nil => rfl
  | cons a l ih =>
    obtain ⟨ha, hl⟩ := List.forall_mem_cons.1 h
    rw [List.mapM_cons, ha, ih hl]
    rfl

section
variable {s : Script} {charset : Charset} {m : Replacements} {code : Bytes} {i : Instruction}
  {is : List Instruction}

/-! ## Texts agree -/

theorem text_eq (h : i.Placed s.container.code) : text s charset i = some (s.text? charset i) := by
  rw [text, h.payload_eq]
  rfl

theorem textsOf_eq (h : ∀ i ∈ is, i.Placed s.container.code) :
    textsOf s charset is = some (s.textsOf charset is) := by
  induction is with
  | nil => rfl
  | cons i is ih =>
    obtain ⟨hi, his⟩ := List.forall_mem_cons.1 h
    rw [textsOf, Script.textsOf, text_eq hi, ih his]
    cases s.text? charset i with
    | none => rfl
    | some r =>
      cases r with
      | error e => rfl
      | ok text => cases s.textsOf charset is <;> rfl

theorem exportText_eq (h : ∀ i ∈ s.assembly.instructions.toList, i.Placed s.container.code) :
    exportText s charset = some (s.exportText charset) :=
  textsOf_eq fun i hi => h i (List.mem_filter.1 hi).1

theorem entry_eq (h : i.Placed s.container.code) :
    entry s charset i = some (Listing.entry s charset i) := by
  rw [entry, text_eq h]
  rfl

theorem listing_eq (h : ∀ i ∈ s.assembly.instructions.toList, i.Placed s.container.code) :
    listing s charset = some (Listing.ofScript s charset) := by
  have he : s.assembly.instructions.toList.mapM (entry s charset) = _ :=
    mapM_eq_some fun i hi => entry_eq (h i hi)
  rw [listing, he]
  rfl

/-! ## Relocations agree -/

theorem rebuild_eq (h : i.Placed code) :
    rebuild charset m code i = some (Relocation.rebuild charset m code i) := by
  unfold rebuild Relocation.rebuild
  rw [h.bytes_eq, h.trailer_eq]
  cases Relocation.replacement? m i with
  | none => rfl
  | some text =>
    dsimp only
    cases charset.encode text <;> rfl

theorem emit_eq {address : Nat} (h : ∀ i ∈ is, i.Placed code) :
    emit charset m code address is = some (Relocation.emit charset m code address is) := by
  induction is generalizing address with
  | nil =>
    rw [emit, Relocation.emit, ← apply_ite some]
  | cons i is ih =>
    obtain ⟨hi, his⟩ := List.forall_mem_cons.1 h
    rw [emit, Relocation.emit, rebuild_eq hi, apply_ite some]
    congr 1
    cases Relocation.rebuild charset m code i with
    | error e => rfl
    | ok r =>
      obtain ⟨bs, new⟩ := r
      simp only [Option.bind_eq_bind, Option.bind_some, ih his]
      cases Relocation.emit charset m code (address + bs.length) is <;> rfl

/-- There is a new address for every instruction. -/
theorem length_of_emit {address : Nat} {r : Relocation.Replay}
    (h : Relocation.emit charset m code address is = .ok r) : r.pieces.length = is.length := by
  induction is generalizing address r with
  | nil =>
    unfold Relocation.emit at h
    split at h
    · cases h
    · cases h
      rfl
  | cons i is ih =>
    unfold Relocation.emit at h
    split at h
    · cases h
    · split at h
      · cases h
      · split at h
        · cases h
        · next rest hr =>
          cases h
          rw [List.length_cons, List.length_cons, ih hr]

theorem patch?_eq {asm : Assembly} {addresses : Array Nat} (hs : Assembly.Ascending asm.instructions)
    (hn : addresses.size = asm.instructions.size) (e : JumpEntry) :
    patch? asm addresses e = some (Relocation.patch? asm addresses e) := by
  unfold patch? Relocation.patch?
  cases hf : asm.find? e.target with
  | none => rfl
  | some r =>
    obtain ⟨k, i⟩ := r
    have hk := (Array.getElem?_eq_some_iff.1 ((Assembly.find?_eq_some_iff hs).1 hf).1).1
    simp [Array.getD, hn ▸ hk]

theorem patchFrom_eq {asm : Assembly} {addresses : Array Nat}
    (hs : Assembly.Ascending asm.instructions) (hn : addresses.size = asm.instructions.size)
    (n : Nat) (jumps : List JumpEntry) :
    patchFrom asm addresses n jumps = some (Relocation.patchFrom asm addresses n jumps) := by
  induction jumps generalizing n with
  | nil => rfl
  | cons e jumps ih =>
    rw [patchFrom, Relocation.patchFrom, ih, patch?_eq hs hn]
    cases Relocation.patch? asm addresses e <;> rfl

theorem relocate_eq {c : Container} {asm : Assembly} (hs : Assembly.Ascending asm.instructions)
    (hc : Assembly.headerSize ≤ c.code.length)
    (h : ∀ i ∈ asm.instructions.toList, i.Placed c.code) :
    relocate charset c asm m = some (Dialogue.relocate charset c asm m) := by
  have hh : slice c.code 0 Assembly.headerSize = some (c.code.take Assembly.headerSize) :=
    if_pos ⟨Nat.zero_le _, hc⟩
  unfold relocate Dialogue.relocate
  rw [hh, emit_eq h]
  cases he : Relocation.emit charset m c.code Assembly.headerSize asm.instructions.toList with
  | error e => rfl
  | ok replay =>
    have hn : (replay.pieces.map (·.1)).toArray.size = asm.instructions.size := by
      rw [List.size_toArray, List.length_map, length_of_emit he, Array.length_toList]
    simp only [Option.bind_eq_bind, Option.bind_some, patchFrom_eq hs hn]
    rfl

end

end Checked

/-! ## String loads -/

/-- In `code` the string load is its opcode, the payload, a zero byte and its extra block. -/
structure Instruction.Loads (i : Instruction) (code payload : Bytes) : Prop where
  bytes_eq : i.bytes code = i.opcode :: payload ++ 0 :: i.trailer code
  nonzero : 0 ∉ payload
  opcode_at : code[i.address]? = some i.opcode
  zero_at : code[i.address + 1 + payload.length]? = some 0
  /-- Only an empty payload has no range. -/
  payloadRange_eq : i.payloadRange =
    if payload = [] then none else some (i.address + 1, i.address + 1 + payload.length)
  payload_eq : i.payload? code = if payload = [] then none else some payload
  trailerStart_eq : i.trailerStart = i.address + 1 + payload.length + 1
  stop_eq : i.stop = i.trailerStart + (i.trailer code).length
  stop_le : i.stop ≤ code.length
  bare : i.hasExtra = false → i.trailer code = []
  tagged : i.hasExtra = true → ∃ fields : Bytes, fields.length = 8 ∧ i.trailer code = 0x77 :: fields

namespace Block

section
variable {b : Block} {code : Bytes} {pos : Nat}

theorem extraLength_instruction (b : Block) (pos : Nat) :
    (b.instruction pos).extraLength = b.trailer.length := b.length_trailer.symm

theorem stop_instruction (b : Block) (pos : Nat) :
    (b.instruction pos).stop = pos + 1 + b.operand.length + b.trailer.length := by
  simp only [Instruction.stop, instruction, length_bytes]
  omega

theorem At.stop_le (h : b.At code pos) : (b.instruction pos).stop ≤ code.length := by
  obtain ⟨front, back, rfl, rfl⟩ := h
  simp only [Instruction.stop, instruction, List.length_append]
  omega

theorem At.placed (h : b.At code pos) (hc : code.length ≤ addressLimit) :
    (b.instruction pos).Placed code := by
  have hpos := b.length_operand_pos
  refine ⟨?_, h.stop_le, by rw [addressLimit] at hc; omega⟩
  rw [extraLength_instruction, stop_instruction]
  simp only [instruction]
  omega

theorem At.getElem? (h : b.At code pos) {n : Nat} (hn : n < b.bytes.length) :
    code[pos + n]? = b.bytes[n]? := by
  obtain ⟨front, back, rfl, rfl⟩ := h
  rw [List.append_assoc, List.getElem?_append_right (Nat.le_add_right ..), Nat.add_sub_cancel_left,
    List.getElem?_append_left hn]

theorem At.loads (h : b.At code pos) (hk : b.opcode.kind = .stringLoad) :
    (b.instruction pos).Loads code b.text := by
  obtain ⟨hz, hbytes⟩ := Relocation.bytes_eq_text hk
  have hblen := b.length_bytes
  have hlen : b.operand.length = b.text.length + 1 := by
    rw [hbytes, List.length_append, List.length_cons, List.length_cons] at hblen
    omega
  have hstart := b.trailerStart_eq pos
  have hload : (b.instruction pos).isStringLoad = true := by
    simp [Instruction.isStringLoad, Instruction.kind, instruction, hk]
  constructor
  case bytes_eq => rw [h.bytes_eq, h.trailer_eq, hbytes]; rfl
  case nonzero => exact hz
  case opcode_at =>
    have hat : code[pos + 0]? = b.bytes[0]? := h.getElem? (by omega)
    rw [hbytes] at hat
    exact hat
  case zero_at =>
    have hat : code[pos + (1 + b.text.length)]? = b.bytes[1 + b.text.length]? :=
      h.getElem? (by omega)
    rw [hbytes, ← Nat.add_assoc, Nat.add_comm 1 b.text.length] at hat
    simpa [instruction] using hat
  case payloadRange_eq =>
    have hlast : (b.instruction pos).trailerStart - 1 = pos + 1 + b.text.length := by omega
    rw [Instruction.payloadRange, hload, hlast]
    by_cases he : b.text = []
    · simp [he, instruction]
    · have := List.length_pos_iff.2 he
      simp [he, instruction, this]
  case payload_eq => exact h.payload?_eq hk
  case trailerStart_eq => rw [hstart, hlen]; rfl
  case stop_eq => rw [h.trailer_eq, hstart, stop_instruction]
  case stop_le => exact h.stop_le
  case bare =>
    intro hx
    have hn : b.extra = none := by simpa [instruction] using hx
    rw [h.trailer_eq, trailer, hn]
  case tagged =>
    intro hx
    obtain ⟨fields, hf⟩ := Option.isSome_iff_exists.1 hx
    exact ⟨fields, b.extra_length fields hf, by rw [h.trailer_eq, trailer, hf]; rfl⟩

end

end Block

namespace Script

section
variable {s : Script} {hd : Header} {blocks : List Block} {i : Instruction}

theorem HasBlocks.placed (hb : s.HasBlocks hd blocks) (hi : i ∈ s.assembly.instructions.toList) :
    i.Placed s.container.code := by
  obtain ⟨k, b, -, rfl, hat⟩ := hb.block_of_mem hi
  exact hat.placed hb.length_le

theorem HasBlocks.exists_loads (hb : s.HasBlocks hd blocks) (hi : i ∈ s.assembly.stringLoads) :
    ∃ payload, i.Loads s.container.code payload := by
  obtain ⟨hmem, hl⟩ := List.mem_filter.1 hi
  obtain ⟨k, b, -, rfl, hat⟩ := hb.block_of_mem hmem
  exact ⟨b.text, hat.loads (of_decide_eq_true hl)⟩

end

/-- Whatever is done to a loaded script, each of its string loads has its opcode, a payload without
zeros, one zero byte and its extra block in this order and nothing else; the ranges of payload and
extra block are computed without going below zero; and the export, the listing and a relocation with
any replacements take no slice that is not inside the code and no new address that is not there. -/
theorem accesses_after {file : Bytes} {s s' : Script} {charset : Charset} {edits : List Edit}
    (hs : load file = .ok s) (ha : s.after charset edits = s') :
    (∀ i ∈ s'.assembly.stringLoads, (∃ payload, i.Loads s'.container.code payload) ∧
      Checked.payloadRange i = some i.payloadRange ∧
      Checked.trailerStart i = some i.trailerStart ∧ Checked.stop i = some i.stop) ∧
    ∀ charset' : Charset,
      Checked.exportText s' charset' = some (s'.exportText charset') ∧
      Checked.listing s' charset' = some (Listing.ofScript s' charset') ∧
      ∀ m : Replacements, Checked.relocate charset' s'.container s'.assembly m =
        some (relocate charset' s'.container s'.assembly m) := by
  have hc : s'.Consistent := by
    rw [← ha]
    exact Session.consistent_run (t := ⟨s, charset⟩) (consistent_of_load hs) edits
  obtain ⟨hd, blocks, hb⟩ := hc.exists_hasBlocks
  have hp (i : Instruction) (hi : i ∈ s'.assembly.instructions.toList) :
      i.Placed s'.container.code := hb.placed hi
  refine ⟨fun i hi => ⟨hb.exists_loads hi, ?_⟩, fun charset' =>
    ⟨Checked.exportText_eq hp, Checked.listing_eq hp, fun m =>
      Checked.relocate_eq hb.ascending (Assembly.headerSize_le_of_decode hb.decode) hp⟩⟩
  have hpi := hp i (List.mem_filter.1 hi).1
  exact ⟨hpi.payloadRange_eq, hpi.trailerStart_eq, hpi.stop_eq⟩

/-- A text that got longer, before its extra block. -/
theorem accesses_after_sample :
    load sampleFile = .ok sample ∧
      (∃ payload, Instruction.Loads ⟨3, 16, 0x6B, true⟩ sampleRebuilt payload) ∧
      Checked.payloadRange ⟨3, 16, 0x6B, true⟩ = some (some (4, 9)) ∧
      Checked.exportText (sample.after .shiftJis sampleEdits) .shiftJis =
        some (.ok [⟨3, "A \x00 b"⟩]) := by
  have hc : (sample.after .shiftJis sampleEdits).container.code = sampleRebuilt := by cbv
  have hl : (sample.after .shiftJis sampleEdits).assembly.stringLoads =
      [⟨3, 16, 0x6B, true⟩, ⟨22, 2, 0x6C, false⟩] := by
    cbv
  have he : (sample.after .shiftJis sampleEdits).exportText .shiftJis =
      .ok [⟨3, "A \x00 b"⟩] := by
    cbv
  obtain ⟨hload, haccess⟩ := accesses_after load_sampleFile
    (Eq.refl (sample.after .shiftJis sampleEdits))
  obtain ⟨hlayout, hrange, -⟩ := hload ⟨3, 16, 0x6B, true⟩ (by rw [hl]; exact List.mem_cons_self)
  rw [hc] at hlayout
  exact ⟨load_sampleFile, hlayout, hrange, (haccess .shiftJis).1.trans (congrArg some he)⟩

end Script

end Dialogue
