import Mathlib
import Dialogue.Proofs.Grammar

/-!
# Joined code sections

Two bodies under one header, one behind the other, are the blocks of the first and then those of the
second, unless the second begins with the tag `0x77` and the first ends without an extra block: that
tag is an opcode at the beginning of a body, but behind a bare block it is not. The layout of a body
moves with its offset (`Block.layout_add`), and it tells the blocks of given bytes
(`Block.eq_of_layout_eq`). `Assembly.decode_append` says when the bodies of two sections decode
to the joined instructions, and that the end of a section from an instruction on always does.
-/

namespace Dialogue

/-- The instruction `n` bytes further on. -/
def Instruction.shift (n : Nat) (i : Instruction) : Instruction :=
  { i with address := i.address + n }

namespace Block

theorem layout_add (pos n : Nat) (blocks : List Block) :
    layout (pos + n) blocks = (layout pos blocks).map (Instruction.shift n) := by
  induction blocks generalizing pos with
  | nil => rfl
  | cons b blocks ih =>
    rw [layout, layout, List.map_cons, Nat.add_right_comm, ih]
    rfl

/-- A layout says where each block ends and whether it has an extra block, so it tells the blocks of
the same bytes apart. -/
theorem eq_of_layout_eq {pos : Nat} {blocks blocks' : List Block}
    (hf : flatten blocks = flatten blocks') (hl : layout pos blocks = layout pos blocks') :
    blocks = blocks' := by
  induction blocks generalizing pos blocks' with
  | nil => cases blocks' with
    | nil => rfl
    | cons c blocks' => cases hl
  | cons b blocks ih => cases blocks' with
    | nil => cases hl
    | cons c blocks' =>
      obtain ⟨hi, hl⟩ := List.cons.inj hl
      have hlen : b.bytes.length = c.bytes.length := congrArg Instruction.length hi
      obtain ⟨hb, hf⟩ := List.append_inj hf hlen
      rw [hlen] at hl
      rw [eq_of_bytes_eq hb (congrArg Instruction.hasExtra hi), ih hf hl]

theorem drop_flatten (blocks : List Block) (k : Nat) :
    (flatten blocks).drop (offset blocks k) = flatten (blocks.drop k) := by
  conv_lhs => rw [← List.take_append_drop k blocks, flatten_append, offset]
  rw [List.take_append_drop, List.drop_left]

theorem drop_layout (pos : Nat) (blocks : List Block) (k : Nat) :
    (layout pos blocks).drop k = layout (pos + offset blocks k) (blocks.drop k) := by
  induction blocks generalizing pos k with
  | nil => simp [layout]
  | cons b blocks ih =>
    cases k with
    | zero => rfl
    | succ k => rw [layout, List.drop_succ_cons, List.drop_succ_cons, ih, offset_cons_succ,
        Nat.add_assoc]

theorem Separated.drop {blocks : List Block} (hs : Separated blocks) (k : Nat) :
    Separated (blocks.drop k) := by
  rw [← List.take_append_drop k blocks] at hs
  exact (separated_append_iff.1 hs).2.1

end Block

namespace Assembly

open Block (flatten layout Separated)

section
variable {h : Header} {front back : List Block}

theorem instructions_append :
    (ofBlocks h (front ++ back)).instructions = (ofBlocks h front).instructions ++
      (ofBlocks h back).instructions.map (Instruction.shift (flatten front).length) := by
  simp [ofBlocks, Block.layout_append, Block.layout_add]

/-- Joined blocks decode as such exactly if they are separated where they meet, too. -/
theorem decode_joined_iff (hle : (h.bytes ++ flatten (front ++ back)).length ≤ addressLimit) :
    (∃ asm, decode (h.bytes ++ flatten (front ++ back)) = .ok asm ∧
        asm.instructions = (ofBlocks h (front ++ back)).instructions) ↔
      Separated (front ++ back) := by
  constructor
  · rintro ⟨asm, hd, hi⟩
    obtain ⟨-, h', blocks, hs, hc, rfl⟩ := decode_ok_iff.1 hd
    have hl : layout headerSize blocks = layout headerSize (front ++ back) := by
      simpa [ofBlocks] using hi
    obtain ⟨-, hf⟩ := List.append_inj hc rfl
    rwa [← Block.eq_of_layout_eq hf.symm hl]
  · intro hs
    exact ⟨_, decode_ok_iff.2 ⟨hle, h, _, hs, rfl, rfl⟩, rfl⟩

theorem back?_ofBlocks_concat (h : Header) (front : List Block) (b : Block) :
    (ofBlocks h (front ++ [b])).instructions.back? =
      some (b.instruction (headerSize + (flatten front).length)) := by
  simp [ofBlocks, Block.layout_append, layout]

/-- Where separated blocks meet, only a tag behind a block without an extra block is in the way. -/
theorem separated_joined_iff (hf : Separated front) (hb : Separated back) :
    Separated (front ++ back) ↔ flatten front = [] ∨ flatten back = [] ∨
      (flatten back).head? ≠ some 0x77 ∨
      ∃ i, (ofBlocks h front).instructions.back? = some i ∧ i.hasExtra = true := by
  rcases List.eq_nil_or_concat' front with rfl | ⟨front, b, rfl⟩
  · exact iff_of_true hb (.inl rfl)
  · rw [Block.separated_append_iff, back?_ofBlocks_concat, List.getLast?_concat]
    constructor
    · rintro ⟨-, -, hj⟩
      by_cases hx : b.extra = none
      · exact .inr (.inr (.inl (hj b rfl hx)))
      · exact .inr (.inr (.inr ⟨_, rfl, Option.isSome_iff_ne_none.2 hx⟩))
    · intro hj
      refine ⟨hf, hb, ?_⟩
      rintro c hc hx ht
      cases hc
      rcases hj with hj | hj | hj | ⟨i, hi, hix⟩
      · simp [Block.bytes] at hj
      · simp [hj] at ht
      · exact hj ht
      · cases hi
        simp [Block.instruction, hx] at hix

end

section
variable {p a b code : Bytes} {front back asm : Assembly} {k : Nat} {i : Instruction}

/-- Behind three bytes, an accepted section consists of separated blocks. -/
theorem exists_blocks_of_decode (hp : p.length = 3) (ha : decode (p ++ a) = .ok front) :
    ∃ (h : Header) (blocks : List Block), p = h.bytes ∧ a = flatten blocks ∧ Separated blocks ∧
      front = ofBlocks h blocks := by
  obtain ⟨-, h, blocks, hs, hc, rfl⟩ := decode_ok_iff.1 ha
  obtain ⟨rfl, rfl⟩ := List.append_inj hc (hp.trans h.length_bytes.symm)
  exact ⟨h, blocks, rfl, rfl, hs, rfl⟩

theorem decode_append_iff (hp : p.length = 3) (ha : decode (p ++ a) = .ok front)
    (hb : decode (p ++ b) = .ok back) (hle : (p ++ a ++ b).length < 0x80000000) :
    (∃ asm, decode (p ++ a ++ b) = .ok asm ∧ asm.instructions =
        front.instructions ++ back.instructions.map (Instruction.shift a.length)) ↔
      a = [] ∨ b = [] ∨ b.head? ≠ some 0x77 ∨
        ∃ i, front.instructions.back? = some i ∧ i.hasExtra = true := by
  obtain ⟨h, front, rfl, rfl, hf, rfl⟩ := exists_blocks_of_decode hp ha
  obtain ⟨h', back, hh, rfl, hbk, rfl⟩ := exists_blocks_of_decode hp hb
  obtain rfl := Header.bytes_injective hh
  rw [List.append_assoc, ← Block.flatten_append] at hle ⊢
  rw [← instructions_append, decode_joined_iff (Nat.le_of_lt_succ hle)]
  exact separated_joined_iff hf hbk

/-- From an instruction on to its end, a section is a section of its own under the same header. -/
theorem decode_drop (h : decode code = .ok asm) (hk : asm.instructions[k]? = some i) :
    ∃ rest, decode (code.take 3 ++ code.drop i.address) = .ok rest ∧
      rest.version = asm.version ∧ rest.marker = asm.marker ∧
      rest.instructions.toList.map (Instruction.shift (i.address - 3)) =
        asm.instructions.toList.drop k := by
  obtain ⟨hle, hd, blocks, hs, rfl, rfl⟩ := decode_ok_iff.1 h
  obtain ⟨b, -, rfl, -⟩ := block_of_getElem? hk
  have hoff : (b.instruction (headerSize + Block.offset blocks k)).address - 3 =
      Block.offset blocks k := Nat.add_sub_cancel_left ..
  have htake : (hd.bytes ++ flatten blocks).take 3 = hd.bytes := List.take_left' rfl
  have hcode : (hd.bytes ++ flatten blocks).take 3 ++
      (hd.bytes ++ flatten blocks).drop (headerSize + Block.offset blocks k) =
        hd.bytes ++ flatten (blocks.drop k) := by
    rw [htake, ← hd.length_bytes, ← List.drop_drop, List.drop_left,
      Block.drop_flatten]
  refine ⟨ofBlocks hd (blocks.drop k), ?_, rfl, rfl, ?_⟩
  · simp only [Block.instruction, hcode]
    refine decode_ok_iff.2 ⟨Nat.le_trans ?_ hle, hd, _, hs.drop k, rfl, rfl⟩
    rw [← Block.drop_flatten, List.length_append, List.length_append, List.length_drop]
    omega
  · rw [ofBlocks, ofBlocks, List.toList_toArray, List.toList_toArray, hoff, ← Block.layout_add,
      Block.drop_layout]

end

/-- Reading respects the places where instructions meet. The bodies of two sections, joined under
their common header, decode to the instructions of both one behind the other exactly if one is empty
or the second does not begin with a tag or the first ends with an extra block. A section from any of
its instructions on decodes to the instructions from there on. -/
theorem decode_append :
    (∀ (p a b : Bytes) (front back : Assembly), p.length = 3 → decode (p ++ a) = .ok front →
      decode (p ++ b) = .ok back → (p ++ a ++ b).length < 0x80000000 →
      ((∃ asm, decode (p ++ a ++ b) = .ok asm ∧ asm.instructions =
          front.instructions ++ back.instructions.map (Instruction.shift a.length)) ↔
        a = [] ∨ b = [] ∨ b.head? ≠ some 0x77 ∨
          ∃ i, front.instructions.back? = some i ∧ i.hasExtra = true)) ∧
    ∀ (code : Bytes) (asm : Assembly) (k : Nat) (i : Instruction), decode code = .ok asm →
      asm.instructions[k]? = some i →
      ∃ rest, decode (code.take 3 ++ code.drop i.address) = .ok rest ∧
        rest.version = asm.version ∧ rest.marker = asm.marker ∧
        rest.instructions.toList.map (Instruction.shift (i.address - 3)) =
          asm.instructions.toList.drop k :=
  ⟨fun _ _ _ _ _ hp ha hb hle => decode_append_iff hp ha hb hle, fun _ _ _ _ => decode_drop⟩

/-- Behind a bare pair the opcode of four fields is taken for a tag, behind an extra block it is not.
The second section ends with that instruction. -/
theorem decode_append_sample :
    (¬ ∃ asm, decode ([1, 0xAB, 0] ++ [0x10, 5, 5] ++ [0x77, 1, 2, 3, 4, 5, 6, 7, 8]) = .ok asm ∧
        asm.instructions = #[⟨3, 3, 0x10, false⟩, ⟨6, 9, 0x77, false⟩]) ∧
      (∃ asm, decode ([1, 0xAB, 0] ++ [0x6A, 0, 0x77, 1, 2, 3, 4, 5, 6, 7, 8] ++
          [0x77, 1, 2, 3, 4, 5, 6, 7, 8]) = .ok asm ∧
        asm.instructions = #[⟨3, 11, 0x6A, true⟩, ⟨14, 9, 0x77, false⟩] ∧
        ∃ rest, decode ([1, 0xAB, 0] ++ [0x77, 1, 2, 3, 4, 5, 6, 7, 8]) = .ok rest ∧
          rest.instructions.toList.map (Instruction.shift 11) = [⟨14, 9, 0x77, false⟩]) := by
  have hpair : decode ([1, 0xAB, 0] ++ [0x10, 5, 5]) = .ok ⟨1, 0xAB, #[⟨3, 3, 0x10, false⟩]⟩ := by
    cbv
  have hextra : decode ([1, 0xAB, 0] ++ [0x6A, 0, 0x77, 1, 2, 3, 4, 5, 6, 7, 8]) =
      .ok ⟨1, 0xAB, #[⟨3, 11, 0x6A, true⟩]⟩ := by
    cbv
  have hfields : decode ([1, 0xAB, 0] ++ [0x77, 1, 2, 3, 4, 5, 6, 7, 8]) =
      .ok ⟨1, 0xAB, #[⟨3, 9, 0x77, false⟩]⟩ := by
    cbv
  have hpairs := (decode_append.1 _ _ _ _ _ rfl hpair hfields (by decide)).not.2 (by simp)
  obtain ⟨asm, hd, hi⟩ := (decode_append.1 _ _ _ _ _ rfl hextra hfields (by decide)).2
    (.inr (.inr (.inr ⟨_, rfl, rfl⟩)))
  have hi : asm.instructions = #[⟨3, 11, 0x6A, true⟩, ⟨14, 9, 0x77, false⟩] := by
    rw [hi]
    simp [Instruction.shift]
  obtain ⟨rest, hr, -, -, hshift⟩ := decode_append.2 _ asm 1 ⟨14, 9, 0x77, false⟩ hd (by simp [hi])
  rw [hi] at hshift
  exact ⟨by simpa [Instruction.shift] using hpairs, asm, hd, hi, rest, hr, hshift⟩

end Assembly

end Dialogue
