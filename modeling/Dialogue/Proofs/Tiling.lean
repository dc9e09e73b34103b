import Mathlib
import Dialogue.Proofs.Truncation

/-!
# Tilings

The instructions that reading a body lists lie one behind the other (`Instruction.Tiles`), and each
takes two bytes or more, because no operand is empty. Where they lie, how many there are and which
of them holds an offset follows from that alone. `Assembly.decode_tiled` puts it together for a
decoded section and adds that `find?` looks up exactly the addresses of its instructions.
-/

namespace Dialogue

namespace Instruction

/-- The instructions lie one behind the other from `start` up to `limit`, each two bytes long or
more. -/
def Tiles (start limit : Nat) : List Instruction → Prop
  | [] => start = limit
  | i :: is => i.address = start ∧ 2 ≤ i.length ∧ Tiles i.stop limit is

section
variable {start limit k n : Nat} {is : List Instruction} {i j : Instruction}

theorem Tiles.address_head (h : Tiles start limit is) (hi : is[0]? = some i) : i.address = start := by
  cases is with
  | nil => cases hi
  | cons j is =>
    cases hi
    exact h.1

theorem Tiles.address_next (h : Tiles start limit is) (hi : is[k]? = some i)
    (hj : is[k + 1]? = some j) : j.address = i.stop := by
  induction is generalizing start k with
  | nil => cases hi
  | cons a is ih =>
    cases k with
    | zero =>
      cases hi
      exact h.2.2.address_head hj
    | succ k => exact ih h.2.2 hi hj

theorem Tiles.stop_last (h : Tiles start limit is) (hi : is.getLast? = some i) : i.stop = limit := by
  induction is generalizing start with
  | nil => cases hi
  | cons a is ih =>
    cases is with
    | nil =>
      cases hi
      exact h.2.2
    | cons b is => exact ih h.2.2 (by rwa [List.getLast?_cons_cons] at hi)

theorem Tiles.add_two_mul_length_le (h : Tiles start limit is) : start + 2 * is.length ≤ limit := by
  induction is generalizing start with
  | nil => exact Nat.le_of_eq h
  | cons i is ih =>
    obtain ⟨rfl, h2, h⟩ := h
    have := ih h
    rw [stop] at this
    rw [List.length_cons]
    omega

theorem Tiles.two_le_length (h : Tiles start limit is) (hi : i ∈ is) : 2 ≤ i.length := by
  induction is generalizing start with
  | nil => cases hi
  | cons j is ih =>
    rcases List.mem_cons.1 hi with rfl | hi
    · exact h.2.1
    · exact ih h.2.2 hi

theorem Tiles.le_address (h : Tiles start limit is) (hi : i ∈ is) : start ≤ i.address := by
  induction is generalizing start with
  | nil => cases hi
  | cons j is ih =>
    obtain ⟨rfl, -, h⟩ := h
    rcases List.mem_cons.1 hi with rfl | hi
    · exact Nat.le_refl _
    · exact Nat.le_trans (Nat.le_add_right ..) (ih h hi)

/-- Every offset between start and limit lies in one instruction and in no other. -/
theorem Tiles.existsUnique (h : Tiles start limit is) (hlo : start ≤ n) (hhi : n < limit) :
    ∃! k : Nat, ∃ i : Instruction, is[k]? = some i ∧ i.address ≤ n ∧ n < i.stop := by
  induction is generalizing start with
  | nil =>
    obtain rfl : start = limit := h
    omega
  | cons i is ih =>
    obtain ⟨rfl, -, h⟩ := h
    rcases Nat.lt_or_ge n i.stop with hlt | hge
    · refine ⟨0, ⟨i, rfl, hlo, hlt⟩, ?_⟩
      rintro (_ | k) ⟨j, hj, hjn, -⟩
      · rfl
      · -- an instruction further on begins behind the offset
        have := h.le_address (List.mem_of_getElem? hj)
        omega
    · obtain ⟨k, hk, huniq⟩ := ih h hge
      refine ⟨k + 1, hk, ?_⟩
      rintro (_ | l) ⟨j, hj, hjn⟩
      · cases hj
        omega
      · rw [huniq l ⟨j, hj, hjn⟩]

end

end Instruction

namespace Block

/-- No operand is empty. -/
theorem length_operand_pos (b : Block) : 0 < b.operand.length := by
  have hf := b.operand_fits
  cases ho : b.opcode.operand with
  | pair =>
    rw [ho, Operand.Fits] at hf
    omega
  | quad =>
    rw [ho, Operand.Fits] at hf
    omega
  | text =>
    rw [ho] at hf
    obtain ⟨text, -, he⟩ := hf
    simp [he]
  | byteText =>
    rw [ho] at hf
    obtain ⟨c, text, -, he⟩ := hf
    simp [he]

theorem two_le_length_bytes (b : Block) : 2 ≤ b.bytes.length := by
  have hpos := b.length_operand_pos
  have hlen := b.length_bytes
  omega

theorem tiles_layout (pos : Nat) (blocks : List Block) :
    Instruction.Tiles pos (pos + (flatten blocks).length) (layout pos blocks) := by
  induction blocks generalizing pos with
  | nil => rfl
  | cons b blocks ih =>
    refine ⟨rfl, b.two_le_length_bytes, ?_⟩
    rw [flatten_cons, List.length_append, ← Nat.add_assoc]
    exact ih (pos + b.bytes.length)

end Block

namespace Assembly

variable {code : Bytes} {asm : Assembly}

theorem tiles_of_decode (h : decode code = .ok asm) :
    Instruction.Tiles headerSize code.length asm.instructions.toList := by
  obtain ⟨-, hd, blocks, -, rfl, rfl⟩ := decode_ok_iff.1 h
  rw [List.length_append, hd.length_bytes]
  exact Block.tiles_layout headerSize blocks

theorem byteLength_of_decode (h : decode code = .ok asm) :
    headerSize + asm.byteLength = code.length := by
  obtain ⟨-, hd, blocks, -, rfl, rfl⟩ := decode_ok_iff.1 h
  have hsum : (ofBlocks hd blocks).byteLength = (Block.flatten blocks).length :=
    Block.sum_length_layout headerSize blocks
  rw [hsum, List.length_append, hd.length_bytes]

theorem ascending_of_decode (h : decode code = .ok asm) : Ascending asm.instructions := by
  obtain ⟨-, hd, blocks, -, rfl, rfl⟩ := decode_ok_iff.1 h
  exact ascending_ofBlocks hd blocks

/-- The instructions of an assembly tile its code behind the header. -/
structure Tiled (code : Bytes) (asm : Assembly) : Prop where
  first : ∀ i, asm.instructions[0]? = some i → i.address = 3
  next : ∀ (k : Nat) (i j : Instruction), asm.instructions[k]? = some i →
    asm.instructions[k + 1]? = some j → j.address = i.stop
  last : ∀ i, asm.instructions.back? = some i → i.stop = code.length
  two_le : ∀ i ∈ asm.instructions, 2 ≤ i.length
  size_le : asm.instructions.size ≤ (code.length - 3) / 2
  /-- The lengths add up to the code behind the header, which is all of it if there is no
  instruction. -/
  sum_eq : 3 + asm.byteLength = code.length
  stop_le : ∀ i ∈ asm.instructions, i.address ≤ 0x7FFFFFFF ∧ i.stop ≤ 0x7FFFFFFF
  /-- Address and length are words, and their sum does not wrap around. -/
  words : ∀ i ∈ asm.instructions, (UInt32.ofNat i.address).toNat = i.address ∧
    (UInt32.ofNat i.length).toNat = i.length ∧
    (UInt32.ofNat i.address + UInt32.ofNat i.length).toNat = i.stop
  holds : ∀ n, 3 ≤ n → n < code.length →
    ∃! k : Nat, ∃ i : Instruction, asm.instructions[k]? = some i ∧ i.address ≤ n ∧ n < i.stop

theorem Tiled.of_decode (h : decode code = .ok asm) : Tiled code asm := by
  have ht := tiles_of_decode h
  have hle : code.length ≤ 0x7FFFFFFF := (decode_ok_iff.1 h).1
  have hstop (i : Instruction) (hi : i ∈ asm.instructions) : i.address + i.length ≤ 0x7FFFFFFF :=
    Nat.le_trans (bounds_of_mem h hi).2 hle
  constructor
  case first =>
    intro i hi
    exact ht.address_head (by rwa [Array.getElem?_toList])
  case next =>
    intro k i j hi hj
    exact ht.address_next (by rwa [Array.getElem?_toList]) (by rwa [Array.getElem?_toList])
  case last =>
    intro i hi
    exact ht.stop_last (by rwa [Array.getLast?_toList])
  case two_le =>
    intro i hi
    exact ht.two_le_length (Array.mem_toList_iff.2 hi)
  case size_le =>
    have hsize : 3 + 2 * asm.instructions.size ≤ code.length := ht.add_two_mul_length_le
    omega
  case sum_eq => exact byteLength_of_decode h
  case stop_le =>
    intro i hi
    exact ⟨Nat.le_trans (Nat.le_add_right ..) (hstop i hi), hstop i hi⟩
  case words =>
    intro i hi
    have := hstop i hi
    simp only [UInt32.toNat_add, UInt32.toNat_ofNat', Instruction.stop]
    omega
  case holds =>
    intro n hlo hhi
    have hu := ht.existsUnique hlo hhi
    simpa only [Array.getElem?_toList] using hu

/-- The instructions of a decoded section tile it: the first begins behind the header, each of the
others where the one before ends, the last ends with the code, and every offset behind the header
lies in exactly one. Looking up an address finds the instruction that begins there with its index,
and nothing where none begins. -/
theorem decode_tiled (h : decode code = .ok asm) :
    Tiled code asm ∧
      (∀ (address k : Nat) (i : Instruction), asm.find? address = some (k, i) ↔
        asm.instructions[k]? = some i ∧ i.address = address) ∧
      ∀ address, asm.find? address = none ↔ ∀ i ∈ asm.instructions, i.address ≠ address := by
  have hs := ascending_of_decode h
  exact ⟨.of_decode h, fun _ _ _ => find?_eq_some_iff hs, fun _ => find?_eq_none_iff hs⟩

/-- The second of two instructions, an address inside it, one in the header and the end. -/
theorem decode_tiled_sample :
    decode sampleTagged = .ok sampleTaggedAssembly ∧
      sampleTaggedAssembly.find? 15 = some (1, ⟨15, 3, 0x10, false⟩) ∧
      (∀ address ∈ [0, 16, 18], sampleTaggedAssembly.find? address = none) ∧
      ∃! k : Nat, ∃ i : Instruction, sampleTaggedAssembly.instructions[k]? = some i ∧
        i.address ≤ 14 ∧ 14 < i.stop := by
  have h : decode sampleTagged = .ok sampleTaggedAssembly := by cbv
  obtain ⟨ht, hsome, hnone⟩ := decode_tiled h
  refine ⟨h, (hsome 15 1 _).2 ⟨rfl, rfl⟩, fun address ha => (hnone address).2 ?_,
    ht.holds 14 (by decide) (by decide)⟩
  intro i hi
  simp only [sampleTaggedAssembly, List.mem_toArray, List.mem_cons, List.not_mem_nil,
    or_false] at ha hi
  rcases hi with rfl | rfl <;> rcases ha with rfl | rfl | rfl <;> decide

end Assembly

end Dialogue
