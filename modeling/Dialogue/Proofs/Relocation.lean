import Dialogue.Proofs.Assembly
import Dialogue.Script

/-!
# Relocation of blocks

Relocation replays the blocks of a section: a string load with a replacement gets another
text, every other block stays as it is (`Becomes`, and `Rebuilt` for a whole body). Opcodes
and extra blocks are kept, so a separated body stays separated and decoding the new section
gives the same program. What the replay and the patching of the jump table count on the way is
what `report` counts afterwards. `relocate_ok_iff` says what relocation does to the section of a
decoded assembly, in both directions.
-/

namespace Dialogue

namespace Relocation

open Block (flatten layout Separated)

section
variable {charset : Charset} {m : Replacements}

/-- What relocation makes of the block `b` at the offset `pos`. -/
inductive Becomes (charset : Charset) (m : Replacements) (pos : Nat) (b : Block) : Block → Prop
  | kept (h : replacement? m (b.instruction pos) = none) : Becomes charset m pos b b
  | replaced {text : String} {plain : Bytes} (hop : b.opcode.operand = .text)
      (h : replacement? m (b.instruction pos) = some text) (he : charset.encode text = .ok plain) :
      Becomes charset m pos b
        (b.withText (Cipher.encrypt plain) hop (Cipher.zero_not_mem_encrypt plain))

/-- What relocation makes of a body whose first block is at the offset `pos`. -/
inductive Rebuilt (charset : Charset) (m : Replacements) :
    Nat → List Block → List Block → Prop
  | nil {pos : Nat} : Rebuilt charset m pos [] []
  | cons {pos : Nat} {b b' : Block} {blocks blocks' : List Block} :
      Becomes charset m pos b b' → Rebuilt charset m (pos + b.bytes.length) blocks blocks' →
      Rebuilt charset m pos (b :: blocks) (b' :: blocks')

/-! ## One block -/

theorem stringLoad_of_replacement? {i : Instruction} {text : String}
    (h : replacement? m i = some text) : i.kind = .stringLoad ∧ m.get? i.address = some text := by
  unfold replacement? at h
  split at h
  · next hl => exact ⟨by simpa [Instruction.isStringLoad] using hl, h⟩
  · cases h

theorem replacement?_eq_get? {i : Instruction} (h : i.kind = .stringLoad) :
    replacement? m i = m.get? i.address := by
  simp [replacement?, Instruction.isStringLoad, h]

theorem replacement?_eq_none {i : Instruction}
    (h : i.kind ≠ .stringLoad ∨ m.get? i.address = none) : replacement? m i = none := by
  cases hr : replacement? m i with
  | none => rfl
  | some text =>
    obtain ⟨hk, hg⟩ := stringLoad_of_replacement? hr
    rcases h with h | h
    · exact absurd hk h
    · rw [h] at hg
      cases hg

theorem Becomes.opcode_eq {pos : Nat} {b b' : Block} (h : Becomes charset m pos b b') :
    b'.opcode = b.opcode := by
  cases h <;> rfl

theorem Becomes.extra_eq {pos : Nat} {b b' : Block} (h : Becomes charset m pos b b') :
    b'.extra = b.extra := by
  cases h <;> rfl

theorem Becomes.bytes_eq_of_none {pos : Nat} {b b' : Block} (h : Becomes charset m pos b b')
    (hn : replacement? m (b.instruction pos) = none) : b'.bytes = b.bytes := by
  cases h with
  | kept => rfl
  | replaced _ hr => rw [hn] at hr; cases hr

theorem Becomes.bytes_eq_of_some {pos : Nat} {b b' : Block} {text : String}
    (h : Becomes charset m pos b b') (hs : replacement? m (b.instruction pos) = some text) :
    ∃ plain, charset.encode text = .ok plain ∧
      b'.bytes = b.opcode :: Cipher.encrypt plain ++ 0 :: b.trailer := by
  cases h with
  | kept hn => rw [hn] at hs; cases hs
  | replaced _ hr he =>
    rw [hs, Option.some.injEq] at hr
    subst hr
    exact ⟨_, he, by simp [Block.bytes, Block.withText, Block.trailer]⟩

theorem rebuild_ok_iff {code bs : Bytes} {new : Bool} {pos : Nat} {b : Block} (h : b.At code pos) :
    rebuild charset m code (b.instruction pos) = .ok (bs, new) ↔
      (∃ b', Becomes charset m pos b b' ∧ bs = b'.bytes) ∧
        new = (replacement? m (b.instruction pos)).isSome := by
  unfold rebuild
  constructor
  · intro hr
    split at hr
    · next hn =>
      cases hr
      exact ⟨⟨b, .kept hn, h.bytes_eq⟩, by rw [hn]; rfl⟩
    · next text ht =>
      have hop := Opcode.operand_of_stringLoad (stringLoad_of_replacement? ht).1
      split at hr
      · cases hr
      · next plain he =>
        cases hr
        refine ⟨⟨_, .replaced hop ht he, ?_⟩, by rw [ht]; rfl⟩
        rw [h.trailer_eq]
        simp [Block.bytes, Block.withText, Block.trailer, Block.instruction]
  · rintro ⟨⟨b', hb, rfl⟩, rfl⟩
    cases hr : replacement? m (b.instruction pos) with
    | none =>
      dsimp only
      rw [h.bytes_eq, hb.bytes_eq_of_none hr]
      rfl
    | some text =>
      obtain ⟨plain, he, hp⟩ := hb.bytes_eq_of_some hr
      dsimp only
      rw [he, h.trailer_eq, hp]
      rfl

/-! ## A body -/

/-- The pieces that blocks are emitted as, the first of them at `address`. -/
def place (address : Nat) : List Block → List (Nat × Bytes)
  | [] => []
  | b :: blocks => (address, b.bytes) :: place (address + b.bytes.length) blocks

theorem flatMap_place (address : Nat) (blocks : List Block) :
    (place address blocks).flatMap (·.2) = flatten blocks := by
  induction blocks generalizing address with
  | nil => rfl
  | cons b blocks ih => simp [place, ih]

theorem map_place (address : Nat) (blocks : List Block) :
    (place address blocks).map (·.1) = (layout address blocks).map (·.address) := by
  induction blocks generalizing address with
  | nil => rfl
  | cons b blocks ih => simp [place, layout, ih, Block.instruction]

/-- The number of instructions that have a replacement. -/
def replaced (m : Replacements) (is : List Instruction) : Nat :=
  (is.filter fun i => (replacement? m i).isSome).length

theorem replaced_cons (m : Replacements) (i : Instruction) (is : List Instruction) :
    replaced m (i :: is) = (replacement? m i).isSome.toNat + replaced m is := by
  unfold replaced
  rw [List.filter_cons]
  cases (replacement? m i).isSome with
  | false => simp
  | true => simp [Nat.add_comm]

/-- Emission succeeds exactly when every block can be rebuilt and the end can be addressed. -/
theorem emit_ok_iff {code front : Bytes} {address : Nat} {blocks : List Block} {r : Replay}
    (hc : code = front ++ flatten blocks) :
    emit charset m code address (layout front.length blocks) = .ok r ↔
      ∃ blocks', Rebuilt charset m front.length blocks blocks' ∧
        r = ⟨place address blocks', replaced m (layout front.length blocks)⟩ ∧
        address + (flatten blocks').length ≤ addressLimit := by
  induction blocks generalizing front address r with
  | nil =>
    simp only [layout, emit]
    constructor
    · intro h
      split at h
      · cases h
      · cases h
        exact ⟨[], .nil, rfl, by simp; omega⟩
    · rintro ⟨_, hr, rfl, hle⟩
      cases hr
      rw [Block.flatten_nil, List.length_nil] at hle
      rw [if_neg (by omega)]
      rfl
  | cons b blocks ih =>
    have hat : b.At code front.length := ⟨front, flatten blocks, by rw [hc]; simp, rfl⟩
    have hc' : code = front ++ b.bytes ++ flatten blocks := by rw [hc]; simp
    have hl : (front ++ b.bytes).length = front.length + b.bytes.length := List.length_append
    simp only [layout, emit]
    constructor
    · intro h
      split at h
      · cases h
      · split at h
        · cases h
        · next bs new hb =>
          obtain ⟨⟨b', hb', rfl⟩, rfl⟩ := (rebuild_ok_iff hat).1 hb
          split at h
          · cases h
          · next rest he =>
            cases h
            rw [← hl] at he
            obtain ⟨blocks', hr, rfl, hle⟩ := (ih hc').1 he
            rw [hl] at hr
            refine ⟨b' :: blocks', .cons hb' hr, ?_, by simp; omega⟩
            rw [replaced_cons, hl]
            rfl
    · rintro ⟨_, hr, rfl, hle⟩
      cases hr with
      | cons hb hr =>
        next b' blocks' =>
        rw [Block.flatten_cons, List.length_append] at hle
        have hi := (ih hc').2 ⟨blocks', by rw [hl]; exact hr, rfl,
          (by omega : address + b'.bytes.length + (flatten blocks').length ≤ addressLimit)⟩
        rw [hl] at hi
        rw [if_neg (by omega), (rebuild_ok_iff hat).2 ⟨⟨b', hb, rfl⟩, rfl⟩, replaced_cons]
        simp only [hi]
        rfl

theorem Rebuilt.length_eq {pos : Nat} {blocks blocks' : List Block}
    (h : Rebuilt charset m pos blocks blocks') : blocks'.length = blocks.length := by
  induction h with
  | nil => rfl
  | cons _ _ ih => rw [List.length_cons, List.length_cons, ih]

theorem Rebuilt.head?_flatten {pos : Nat} {blocks blocks' : List Block}
    (h : Rebuilt charset m pos blocks blocks') : (flatten blocks').head? = (flatten blocks).head? := by
  cases h with
  | nil => rfl
  | cons hb _ => rw [Block.head?_flatten_cons, Block.head?_flatten_cons, hb.opcode_eq]

/-- Whether a tag follows depends on opcodes and extra blocks only, and both are kept. -/
theorem Rebuilt.separated {pos : Nat} {blocks blocks' : List Block}
    (h : Rebuilt charset m pos blocks blocks') (hs : Separated blocks) : Separated blocks' := by
  induction h with
  | nil => trivial
  | cons hb hr ih =>
    refine ⟨fun hx => ?_, ih hs.2⟩
    rw [hr.head?_flatten]
    exact hs.1 (by rw [← hb.extra_eq, hx])

theorem Rebuilt.getElem? {pos k : Nat} {blocks blocks' : List Block} {b : Block}
    (h : Rebuilt charset m pos blocks blocks') (hk : blocks[k]? = some b) :
    ∃ b', blocks'[k]? = some b' ∧ Becomes charset m (pos + Block.offset blocks k) b b' := by
  induction h generalizing k with
  | nil => simp at hk
  | cons hb _ ih =>
    cases k with
    | zero =>
      simp only [List.getElem?_cons_zero, Option.some.injEq] at hk
      subst hk
      exact ⟨_, rfl, hb⟩
    | succ k =>
      rw [List.getElem?_cons_succ] at hk
      obtain ⟨c', hc, hbc⟩ := ih hk
      refine ⟨c', hc, ?_⟩
      rw [Block.offset_cons_succ, ← Nat.add_assoc]
      exact hbc

/-! ## A section -/

/-- A jump entry after relocation: it follows its instruction, or it stays as it is. -/
def patch (asm : Assembly) (addresses : Array Nat) (e : JumpEntry) : JumpEntry :=
  (patch? asm addresses e).getD e

/-- The indices of the entries of a jump table that refer to no instruction. -/
def unmatched (asm : Assembly) (jumps : List JumpEntry) : List Nat :=
  (jumps.zipIdx.filter fun e => (asm.find? e.1.target).isNone).map (·.2)

/-- What a relocation reports, counted from its input. -/
def report (asm : Assembly) (m : Replacements) (jumps : List JumpEntry) : RelocationReport where
  replaced := replaced m asm.instructions.toList
  ignored := ignored asm m
  patched := (jumps.filter fun e => (asm.find? e.target).isSome).length
  unmatched := unmatched asm jumps

theorem patchFrom_eq (asm : Assembly) (addresses : Array Nat) (n : Nat) (jumps : List JumpEntry) :
    patchFrom asm addresses n jumps = ⟨jumps.map (patch asm addresses),
      (jumps.filter fun e => (asm.find? e.target).isSome).length,
      ((jumps.zipIdx n).filter fun e => (asm.find? e.1.target).isNone).map (·.2)⟩ := by
  induction jumps generalizing n with
  | nil => rfl
  | cons e jumps ih =>
    rw [patchFrom, ih, List.zipIdx_cons]
    cases hf : asm.find? e.target with
    | none => simp [patch, patch?, hf]
    | some r => simp [patch, patch?, hf]

/-- The jump table after the blocks of `asm` have become `blocks'`. -/
def patched (asm : Assembly) (blocks' : List Block) (jumps : List JumpEntry) : List JumpEntry :=
  jumps.map (patch asm ((layout Assembly.headerSize blocks').map (·.address)).toArray)

@[simp] theorem length_patched (asm : Assembly) (blocks' : List Block) (jumps : List JumpEntry) :
    (patched asm blocks' jumps).length = jumps.length := List.length_map ..

theorem relocate_ok_iff {c : Container} {h : Header} {blocks : List Block} {r : Relocated}
    (hc : c.code = h.bytes ++ flatten blocks) :
    relocate charset c (Assembly.ofBlocks h blocks) m = .ok r ↔
      ∃ blocks', Rebuilt charset m Assembly.headerSize blocks blocks' ∧
        (h.bytes ++ flatten blocks').length ≤ addressLimit ∧
        r = ⟨h.bytes ++ flatten blocks', patched (Assembly.ofBlocks h blocks) blocks' c.jumps,
          report (Assembly.ofBlocks h blocks) m c.jumps⟩ := by
  have he (replay : Replay) : emit charset m c.code Assembly.headerSize
      (layout Assembly.headerSize blocks) = .ok replay ↔ ∃ blocks',
        Rebuilt charset m Assembly.headerSize blocks blocks' ∧
        replay = ⟨place Assembly.headerSize blocks',
          replaced m (layout Assembly.headerSize blocks)⟩ ∧
        Assembly.headerSize + (flatten blocks').length ≤ addressLimit := emit_ok_iff hc
  have ht : c.code.take Assembly.headerSize = h.bytes := by
    rw [hc, ← h.length_bytes, List.take_left]
  unfold relocate
  simp only [Assembly.ofBlocks, List.toList_toArray, List.length_append, h.length_bytes, ht]
  constructor
  · intro hr
    split at hr
    · cases hr
    · next replay hp =>
      cases hr
      obtain ⟨blocks', hb, rfl, hle⟩ := (he _).1 hp
      exact ⟨blocks', hb, hle, by rw [flatMap_place, map_place, patchFrom_eq]; rfl⟩
  · rintro ⟨blocks', hb, hle, rfl⟩
    rw [(he _).2 ⟨blocks', hb, rfl, hle⟩]
    simp only [flatMap_place, map_place, patchFrom_eq]
    rfl

end

end Relocation

end Dialogue
