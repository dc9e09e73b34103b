import Dialogue.Proofs.Operand

/-!
# Blocks

A block is an instruction as bytes: an opcode, an operand of the shape that the opcode asks
for, and the fields of an extra block if there is one. A body is *separated* if no block
without an extra block is followed by the opcode `0x77`. `Instruction.readAll_ok_iff` says
that reading a body succeeds exactly on separated blocks and then lists their layout;
`Instruction.readAll_append` says what reading does behind such blocks.
-/

namespace Dialogue

structure Block where
  opcode : Opcode
  operand : Bytes
  extra : Option Bytes
  operand_fits : opcode.operand.Fits operand
  extra_length : ∀ fields ∈ extra, fields.length = Opcode.extraSize

namespace Block

/-- The extra block with its tag, empty if there is none. -/
def trailer (b : Block) : Bytes :=
  match b.extra with
  | none => []
  | some fields => Opcode.extraTag :: fields

def bytes (b : Block) : Bytes := b.opcode :: b.operand ++ b.trailer

/-- The instruction that the block is at the offset `pos`. -/
def instruction (b : Block) (pos : Nat) : Instruction :=
  ⟨pos, b.bytes.length, b.opcode, b.extra.isSome⟩

/-- The bytes of blocks one after the other. -/
def flatten (blocks : List Block) : Bytes := blocks.flatMap bytes

/-- The instructions that the blocks are, the first of them at the offset `pos`. -/
def layout (pos : Nat) : List Block → List Instruction
  | [] => []
  | b :: blocks => b.instruction pos :: layout (pos + b.bytes.length) blocks

/-- No block without an extra block is followed by the tag of one. -/
def Separated : List Block → Prop
  | [] => True
  | b :: blocks =>
    (b.extra = none → (flatten blocks).head? ≠ some Opcode.extraTag) ∧ Separated blocks

@[simp] theorem flatten_nil : flatten [] = [] := rfl

@[simp] theorem flatten_cons (b : Block) (blocks : List Block) :
    flatten (b :: blocks) = b.bytes ++ flatten blocks := rfl

@[simp] theorem length_layout (pos : Nat) (blocks : List Block) :
    (layout pos blocks).length = blocks.length := by
  induction blocks generalizing pos with
  | nil => rfl
  | cons b blocks ih => simp [layout, ih]

theorem sum_length_layout (pos : Nat) (blocks : List Block) :
    (layout pos blocks).foldr (fun i n => i.length + n) 0 = (flatten blocks).length := by
  induction blocks generalizing pos with
  | nil => rfl
  | cons b blocks ih =>
    rw [layout, List.foldr_cons, ih, flatten_cons, List.length_append]
    rfl

@[simp] theorem flatten_append (front back : List Block) :
    flatten (front ++ back) = flatten front ++ flatten back := List.flatMap_append

theorem layout_append (pos : Nat) (front back : List Block) :
    layout pos (front ++ back) =
      layout pos front ++ layout (pos + (flatten front).length) back := by
  induction front generalizing pos with
  | nil => rfl
  | cons b front ih =>
    rw [List.cons_append, layout, layout, ih, flatten_cons, List.length_append, Nat.add_assoc]
    rfl

theorem length_trailer (b : Block) :
    b.trailer.length = if b.extra.isSome then 1 + Opcode.extraSize else 0 := by
  unfold trailer
  cases h : b.extra with
  | none => rfl
  | some fields =>
    have hl := b.extra_length fields h
    simp only [List.length_cons, hl, Option.isSome_some, ↓reduceIte]
    rw [Nat.add_comm]

theorem length_bytes (b : Block) :
    b.bytes.length = 1 + b.operand.length + b.trailer.length := by
  simp only [bytes, List.length_append, List.length_cons]
  omega

/-- A block begins with its opcode. -/
theorem head?_flatten_cons (b : Block) (blocks : List Block) :
    (flatten (b :: blocks)).head? = some b.opcode := rfl

theorem separated_append_iff {front back : List Block} :
    Separated (front ++ back) ↔ Separated front ∧ Separated back ∧
      ∀ b ∈ front.getLast?, b.extra = none → (flatten back).head? ≠ some Opcode.extraTag := by
  induction front with
  | nil => simp [Separated]
  | cons b front ih =>
    rw [List.cons_append, Separated, Separated, ih]
    cases front with
    | nil => simp [Separated, and_comm]
    | cons c front =>
      have hnext : (flatten (c :: front ++ back)).head? = (flatten (c :: front)).head? := rfl
      rw [hnext, List.getLast?_cons_cons, and_assoc]

/-! ## Texts -/

/-- The bytes of a text operand before its closing zero. -/
def text (b : Block) : Bytes := b.operand.dropLast

theorem operand_eq_text {b : Block} (h : b.opcode.operand = .text) :
    (0 : UInt8) ∉ b.text ∧ b.operand = b.text ++ [0] := by
  have hf := b.operand_fits
  rw [h] at hf
  obtain ⟨text, hz, he⟩ := hf
  have ht : b.text = text := by rw [Block.text, he, List.dropLast_concat]
  rw [ht]
  exact ⟨hz, he⟩

/-- The block with another text. -/
def withText (b : Block) (text : Bytes) (h : b.opcode.operand = .text)
    (hz : (0 : UInt8) ∉ text) : Block :=
  { b with operand := text ++ [0], operand_fits := by rw [h]; exact ⟨text, hz, rfl⟩ }

/-! ## Places -/

/-- The block stands in `code` at the offset `pos`. -/
def At (b : Block) (code : Bytes) (pos : Nat) : Prop :=
  ∃ front back, code = front ++ b.bytes ++ back ∧ front.length = pos

section
variable {b : Block} {code : Bytes} {pos : Nat}

theorem slice_eq {start stop : Nat} (front mid back : Bytes) (hc : code = front ++ mid ++ back)
    (hs : start = front.length) (ht : stop = front.length + mid.length) :
    Instruction.slice code start stop = mid := by
  subst hc hs ht
  simp [Instruction.slice]

theorem At.bytes_eq (h : b.At code pos) : (b.instruction pos).bytes code = b.bytes := by
  obtain ⟨front, back, rfl, rfl⟩ := h
  exact slice_eq front b.bytes back rfl rfl rfl

theorem trailerStart_eq (b : Block) (pos : Nat) :
    (b.instruction pos).trailerStart = pos + 1 + b.operand.length := by
  have ht : (b.instruction pos).extraLength = b.trailer.length := by
    rw [length_trailer]
    rfl
  simp only [Instruction.trailerStart, Instruction.stop, ht]
  simp only [instruction, length_bytes]
  omega

theorem At.trailer_eq (h : b.At code pos) : (b.instruction pos).trailer code = b.trailer := by
  obtain ⟨front, back, rfl, rfl⟩ := h
  apply slice_eq (front ++ b.opcode :: b.operand) b.trailer back
  · simp [bytes]
  · rw [trailerStart_eq, List.length_append, List.length_cons]
    omega
  · simp only [Instruction.stop, instruction, length_bytes, List.length_append, List.length_cons]
    omega

/-- The payload of a string load is its text. An empty text counts as no payload. -/
theorem At.payload?_eq (h : b.At code pos) (hk : b.opcode.kind = .stringLoad) :
    (b.instruction pos).payload? code = if b.text = [] then none else some b.text := by
  obtain ⟨front, back, rfl, rfl⟩ := h
  obtain ⟨-, ho⟩ := operand_eq_text (Opcode.operand_of_stringLoad hk)
  have hl : (b.instruction front.length).isStringLoad = true := by
    simp [Instruction.isStringLoad, Instruction.kind, instruction, hk]
  have ht : (b.instruction front.length).trailerStart - 1 = front.length + 1 + b.text.length := by
    rw [trailerStart_eq, ho, List.length_append, List.length_singleton]
    omega
  rw [Instruction.payload?, Instruction.payloadRange, hl, ht]
  simp only [instruction, true_and]
  by_cases he : b.text = []
  · simp [he]
  · have hp : 0 < b.text.length := List.length_pos_iff.2 he
    rw [if_pos (by omega), if_neg he, Option.map_some, Option.some.injEq]
    apply slice_eq (front ++ [b.opcode]) b.text (0 :: b.trailer ++ back)
    · simp [bytes, ho]
    · simp
    · simp

end

/-- How many bytes the first `k` blocks take. -/
def offset (blocks : List Block) (k : Nat) : Nat := (flatten (blocks.take k)).length

@[simp] theorem offset_zero (blocks : List Block) : offset blocks 0 = 0 := rfl

@[simp] theorem offset_cons_succ (b : Block) (blocks : List Block) (k : Nat) :
    offset (b :: blocks) (k + 1) = b.bytes.length + offset blocks k := by
  simp [offset]

theorem offset_le (blocks : List Block) (k : Nat) : offset blocks k ≤ (flatten blocks).length := by
  have h : flatten (blocks.take k) ++ flatten (blocks.drop k) = flatten blocks := by
    rw [flatten, flatten, ← List.flatMap_append, List.take_append_drop]
    rfl
  rw [offset, ← h, List.length_append]
  exact Nat.le_add_right ..

theorem getElem?_layout (pos : Nat) (blocks : List Block) (k : Nat) :
    (layout pos blocks)[k]? = blocks[k]?.map fun b => b.instruction (pos + offset blocks k) := by
  induction blocks generalizing pos k with
  | nil => rfl
  | cons b blocks ih =>
    cases k with
    | zero => rfl
    | succ k => simp [layout, ih, Nat.add_assoc]

theorem at_of_getElem? {front : Bytes} {blocks : List Block} {k : Nat} {b : Block}
    (h : blocks[k]? = some b) :
    b.At (front ++ flatten blocks) (front.length + offset blocks k) := by
  induction blocks generalizing front k with
  | nil => simp at h
  | cons c blocks ih =>
    cases k with
    | zero =>
      simp only [List.getElem?_cons_zero, Option.some.injEq] at h
      subst h
      exact ⟨front, flatten blocks, by simp, rfl⟩
    | succ k =>
      simp only [List.getElem?_cons_succ] at h
      have hi : b.At (front ++ c.bytes ++ flatten blocks)
          ((front ++ c.bytes).length + offset blocks k) := ih h
      rw [List.length_append] at hi
      rw [flatten_cons, ← List.append_assoc, offset_cons_succ, ← Nat.add_assoc]
      exact hi

theorem le_address_of_mem_layout {pos : Nat} {blocks : List Block} {i : Instruction}
    (h : i ∈ layout pos blocks) : pos ≤ i.address := by
  induction blocks generalizing pos with
  | nil => simp [layout] at h
  | cons b blocks ih =>
    rcases List.mem_cons.1 h with rfl | h
    · exact Nat.le_refl pos
    · have := ih h
      omega

theorem address_lt_of_mem_layout {pos : Nat} {blocks : List Block} {i : Instruction}
    (h : i ∈ layout pos blocks) : i.address < i.stop := by
  induction blocks generalizing pos with
  | nil => simp [layout] at h
  | cons b blocks ih =>
    rcases List.mem_cons.1 h with rfl | h
    · have := b.length_bytes
      simp only [Instruction.stop, instruction]
      omega
    · exact ih h

theorem stop_le_of_mem_layout {pos : Nat} {blocks : List Block} {i : Instruction}
    (h : i ∈ layout pos blocks) : i.stop ≤ pos + (flatten blocks).length := by
  induction blocks generalizing pos with
  | nil => simp [layout] at h
  | cons b blocks ih =>
    rw [flatten_cons, List.length_append]
    rcases List.mem_cons.1 h with rfl | h
    · simp only [Instruction.stop, instruction]
      omega
    · have := ih h
      omega

theorem pairwise_layout (pos : Nat) (blocks : List Block) :
    (layout pos blocks).Pairwise (·.address < ·.address) := by
  induction blocks generalizing pos with
  | nil => exact .nil
  | cons b blocks ih =>
    refine List.pairwise_cons.2 ⟨fun i hi => ?_, ih _⟩
    have := le_address_of_mem_layout hi
    have hl := b.length_bytes
    simp only [instruction]
    omega

end Block

namespace Instruction

/-- Reading takes one block off the input. Without an extra block, the tag must not follow. -/
theorem read_ok_iff {pos : Nat} {op : Opcode} {bs rest : Bytes} {i : Instruction} :
    read pos op bs = .ok (i, rest) ↔
      ∃ b : Block, op :: bs = b.bytes ++ rest ∧ i = b.instruction pos ∧
        (b.extra = none → rest.head? ≠ some Opcode.extraTag) := by
  simp only [read]
  constructor
  · intro h
    split at h
    · cases h
    · next n bs₁ h₁ =>
      obtain ⟨operand, hf, rfl, rfl⟩ := Operand.read_ok_iff.1 h₁
      split at h
      · cases h
      · next found bs₂ h₂ =>
        simp only [Except.ok.injEq, Prod.mk.injEq] at h
        obtain ⟨rfl, rfl⟩ := h
        rcases Operand.readExtra_ok_iff.1 h₂ with ⟨rfl, rfl, ht⟩ | ⟨rfl, fields, hl, rfl⟩
        · refine ⟨⟨op, operand, none, hf, by simp⟩, by simp [Block.bytes, Block.trailer], ?_,
            fun _ => ht⟩
          simp [Block.instruction, Block.bytes, Block.trailer, Nat.add_comm]
        · refine ⟨⟨op, operand, some fields, hf, by simpa using hl⟩,
            by simp [Block.bytes, Block.trailer], ?_, by simp⟩
          simp [Block.instruction, Block.bytes, Block.trailer, hl]
          omega
  · rintro ⟨b, h, rfl, ht⟩
    simp only [Block.bytes, List.cons_append, List.append_assoc, List.cons.injEq] at h
    obtain ⟨rfl, rfl⟩ := h
    rw [Operand.read_ok_iff.2 ⟨b.operand, b.operand_fits, rfl, rfl⟩]
    dsimp only
    have hx : Operand.readExtra (pos + 1 + b.operand.length) (b.trailer ++ rest) =
        .ok (b.extra.map fun _ => 1 + Opcode.extraSize, rest) := by
      rw [Operand.readExtra_ok_iff]
      cases he : b.extra with
      | none => exact .inl ⟨rfl, by simp [Block.trailer, he], ht he⟩
      | some fields => exact .inr ⟨rfl, fields, b.extra_length fields he, by simp [Block.trailer, he]⟩
    rw [hx]
    simp only [Block.instruction, b.length_bytes, b.length_trailer]
    cases b.extra <;> rfl

/-- Reading takes the first block and goes on behind it. -/
theorem readAll_block {b : Block} {rest : Bytes}
    (ht : b.extra = none → rest.head? ≠ some Opcode.extraTag) (pos : Nat) :
    readAll pos (b.bytes ++ rest) =
      (readAll (pos + b.bytes.length) rest).map (b.instruction pos :: ·) := by
  have hr : read pos b.opcode (b.operand ++ b.trailer ++ rest) = .ok (b.instruction pos, rest) :=
    read_ok_iff.2 ⟨b, rfl, rfl, ht⟩
  have hb : b.bytes ++ rest = b.opcode :: (b.operand ++ b.trailer ++ rest) := rfl
  have hstop : (b.instruction pos).stop = pos + b.bytes.length := rfl
  rw [hb, readAll]
  split
  · next e he => rw [hr] at he; cases he
  · next i after he =>
    rw [hr] at he
    cases he
    rw [hstop]
    cases readAll (pos + b.bytes.length) rest <;> rfl

/-- Reading goes through the blocks in front before it comes to what follows them. -/
theorem readAll_append {front : List Block} {rest : Bytes} (hs : Block.Separated front)
    (hj : ∀ b ∈ front.getLast?, b.extra = none → rest.head? ≠ some Opcode.extraTag) (pos : Nat) :
    readAll pos (Block.flatten front ++ rest) =
      (readAll (pos + (Block.flatten front).length) rest).map (Block.layout pos front ++ ·) := by
  induction front generalizing pos with
  | nil => exact (id_map _).symm
  | cons b front ih =>
    have hnext : b.extra = none →
        (Block.flatten front ++ rest).head? ≠ some Opcode.extraTag := by
      cases front with
      | nil => exact hj b rfl
      | cons c front => exact hs.1
    have hlast : ∀ c ∈ front.getLast?, c.extra = none → rest.head? ≠ some Opcode.extraTag := by
      cases front with
      | nil => simp
      | cons c front => exact hj
    rw [Block.flatten_cons, List.append_assoc, readAll_block hnext, ih hs.2 hlast,
      List.length_append, Nat.add_assoc]
    cases readAll (pos + (b.bytes.length + (Block.flatten front).length)) rest <;> rfl

/-- Reading a body succeeds exactly on separated blocks, and lists them. -/
theorem readAll_ok_iff {pos : Nat} {bs : Bytes} {is : List Instruction} :
    readAll pos bs = .ok is ↔
      ∃ blocks, Block.Separated blocks ∧ bs = Block.flatten blocks ∧
        is = Block.layout pos blocks := by
  constructor
  · intro h
    fun_induction readAll pos bs generalizing is with
    | case1 pos =>
      cases h
      exact ⟨[], trivial, rfl, rfl⟩
    | case2 => cases h
    | case3 => cases h
    | case4 pos op bs i rest hr hlt js hj ih =>
      cases h
      obtain ⟨b, hb, rfl, ht⟩ := read_ok_iff.1 hr
      obtain ⟨blocks, hs, rfl, rfl⟩ := ih hj
      exact ⟨b :: blocks, ⟨ht, hs⟩, hb, rfl⟩
  · rintro ⟨blocks, hs, rfl, rfl⟩
    induction blocks generalizing pos with
    | nil => rw [Block.flatten_nil, readAll]; rfl
    | cons b blocks ih =>
      rw [Block.flatten_cons, readAll_block hs.1, ih hs.2]
      rfl

end Instruction

end Dialogue
