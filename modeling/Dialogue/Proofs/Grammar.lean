import Mathlib.Data.List.Chain
import Dialogue.Proofs.Damage

/-!
# The grammar of code sections

A `Phrase` is a block as plain bytes; `Phrase.Valid` says in numbers what its opcode asks of it.
`Derives code h phrases`: the code is this header and these phrases, of which none without an
extra block precedes the tag of one. The main result is `Assembly.decode_accepts_grammar`:
decoding accepts exactly the code that has such a derivation, which is then unique, and lists
its phrases.
-/

namespace Dialogue

namespace Opcode

/-! ## Ranges -/

theorem operand_eq_pair_iff {op : Opcode} : op.operand = .pair ↔ op < 0x3B :=
  Bytes.forall_byte (p := fun op => operand op = .pair ↔ op < 0x3B) (by decide +kernel) op

theorem operand_eq_byteText_iff {op : Opcode} :
    op.operand = .byteText ↔ 0x3B ≤ op ∧ op ≤ 0x47 :=
  Bytes.forall_byte (p := fun op => operand op = .byteText ↔ 0x3B ≤ op ∧ op ≤ 0x47)
    (by decide +kernel) op

theorem operand_eq_text_iff {op : Opcode} : op.operand = .text ↔ 0x48 ≤ op ∧ op ≤ 0x6D :=
  Bytes.forall_byte (p := fun op => operand op = .text ↔ 0x48 ≤ op ∧ op ≤ 0x6D)
    (by decide +kernel) op

theorem operand_eq_quad_iff {op : Opcode} : op.operand = .quad ↔ 0x6E ≤ op :=
  Bytes.forall_byte (p := fun op => operand op = .quad ↔ 0x6E ≤ op) (by decide +kernel) op

theorem kind_eq_stringLoad_iff {op : Opcode} :
    op.kind = .stringLoad ↔ 0x69 ≤ op ∧ op ≤ 0x6D :=
  Bytes.forall_byte (p := fun op => kind op = .stringLoad ↔ 0x69 ≤ op ∧ op ≤ 0x6D)
    (by decide +kernel) op

end Opcode

/-! ## Phrases -/

/-- An opcode, its operand, and the fields of an extra block if there is one. -/
structure Phrase where
  opcode : UInt8
  operand : Bytes
  extra : Option Bytes

namespace Phrase

/-- The operands that an opcode takes, by the range it falls in. -/
inductive Takes : UInt8 → Bytes → Prop
  | pair {op : UInt8} {operand : Bytes} (hop : op < 0x3B) (hl : operand.length = 2) :
      Takes op operand
  | byteText {op : UInt8} {text : Bytes} (hop : 0x3B ≤ op ∧ op ≤ 0x47) (b : UInt8)
      (hz : 0 ∉ text) : Takes op (b :: text ++ [0])
  | text {op : UInt8} {text : Bytes} (hop : 0x48 ≤ op ∧ op ≤ 0x6D) (hz : 0 ∉ text) :
      Takes op (text ++ [0])
  | quad {op : UInt8} {operand : Bytes} (hop : 0x6E ≤ op) (hl : operand.length = 8) :
      Takes op operand

structure Valid (p : Phrase) : Prop where
  operand : Takes p.opcode p.operand
  extra : ∀ fields ∈ p.extra, fields.length = 8

def bytes (p : Phrase) : Bytes :=
  p.opcode :: p.operand ++
    match p.extra with
    | none => []
    | some fields => 0x77 :: fields

theorem takes_iff_fits {op : Opcode} {operand : Bytes} :
    Takes op operand ↔ op.operand.Fits operand := by
  constructor
  · intro h
    cases h with
    | pair hop hl =>
      rw [Opcode.operand_eq_pair_iff.2 hop]
      exact hl
    | byteText hop b hz =>
      rw [Opcode.operand_eq_byteText_iff.2 hop]
      exact ⟨b, _, hz, rfl⟩
    | text hop hz =>
      rw [Opcode.operand_eq_text_iff.2 hop]
      exact ⟨_, hz, rfl⟩
    | quad hop hl =>
      rw [Opcode.operand_eq_quad_iff.2 hop]
      exact hl
  · intro h
    cases ho : op.operand with
    | pair =>
      rw [ho] at h
      exact .pair (Opcode.operand_eq_pair_iff.1 ho) h
    | byteText =>
      rw [ho] at h
      obtain ⟨b, text, hz, rfl⟩ := h
      exact .byteText (Opcode.operand_eq_byteText_iff.1 ho) b hz
    | text =>
      rw [ho] at h
      obtain ⟨text, hz, rfl⟩ := h
      exact .text (Opcode.operand_eq_text_iff.1 ho) hz
    | quad =>
      rw [ho] at h
      exact .quad (Opcode.operand_eq_quad_iff.1 ho) h

end Phrase

namespace Block

/-- The block as plain bytes. -/
def phrase (b : Block) : Phrase := ⟨b.opcode, b.operand, b.extra⟩

theorem phrase_injective : Function.Injective phrase := by
  rintro ⟨op, operand, extra, hf, hx⟩ ⟨op', operand', extra', hf', hx'⟩ h
  cases h
  rfl

theorem valid_phrase (b : Block) : b.phrase.Valid :=
  ⟨Phrase.takes_iff_fits.2 b.operand_fits, b.extra_length⟩

theorem exists_phrase_eq {p : Phrase} (h : p.Valid) : ∃ b : Block, b.phrase = p :=
  ⟨⟨p.opcode, p.operand, p.extra, Phrase.takes_iff_fits.1 h.operand, h.extra⟩, rfl⟩

theorem exists_map_phrase_eq {ps : List Phrase} (h : ∀ p ∈ ps, p.Valid) :
    ∃ blocks : List Block, blocks.map phrase = ps := by
  induction ps with
  | nil => exact ⟨[], rfl⟩
  | cons p ps ih =>
    obtain ⟨b, rfl⟩ := exists_phrase_eq (h p List.mem_cons_self)
    obtain ⟨blocks, rfl⟩ := ih fun q hq => h q (List.mem_cons_of_mem _ hq)
    exact ⟨b :: blocks, rfl⟩

@[simp] theorem flatMap_bytes_phrase (blocks : List Block) :
    (blocks.map phrase).flatMap Phrase.bytes = flatten blocks := by
  rw [List.flatMap_map]
  rfl

theorem head?_flatten (blocks : List Block) :
    (flatten blocks).head? = blocks.head?.map (·.opcode) := by
  cases blocks <;> rfl

theorem separated_iff_isChain {blocks : List Block} :
    Separated blocks ↔
      (blocks.map phrase).IsChain fun p q => p.extra = none → q.opcode ≠ 0x77 := by
  induction blocks with
  | nil => simp [Separated]
  | cons b blocks ih =>
    rw [Separated, head?_flatten, List.map_cons, List.isChain_cons, ih]
    cases blocks with
    | nil => simp
    | cons c blocks => simp [phrase, Opcode.extraTag]

/-! ## Uniqueness -/

/-- Where an extra block ends is known, so the bytes tell the block once they are known to hold
one or not. -/
theorem eq_of_bytes_eq {b c : Block} (h : b.bytes = c.bytes)
    (hx : b.extra.isSome = c.extra.isSome) : b = c := by
  have hl : b.trailer.length = c.trailer.length := by
    rw [b.length_trailer, c.length_trailer, hx]
  simp only [bytes, List.cons_append, List.cons.injEq] at h
  obtain ⟨hop, h⟩ := h
  obtain ⟨ho, ht⟩ := List.append_inj' h hl
  apply phrase_injective
  simp only [phrase, Phrase.mk.injEq]
  refine ⟨hop, ho, ?_⟩
  unfold trailer at ht
  cases hb : b.extra with
  | none => cases hc : c.extra with
    | none => rfl
    | some fields => simp [hb, hc] at hx
  | some fields => cases hc : c.extra with
    | none => simp [hb, hc] at hx
    | some fields' =>
      simp only [hb, hc, List.cons.injEq, true_and] at ht
      rw [ht]

/-- Both decompositions are what reading gives, so they agree block by block. -/
theorem eq_of_flatten_eq {blocks blocks' : List Block} (hs : Separated blocks)
    (hs' : Separated blocks') (h : flatten blocks = flatten blocks') : blocks = blocks' := by
  induction blocks generalizing blocks' with
  | nil => cases blocks' with
    | nil => rfl
    | cons c blocks' => simp [bytes] at h
  | cons b blocks ih => cases blocks' with
    | nil => simp [bytes] at h
    | cons c blocks' =>
      have hb : Instruction.read 0 b.opcode (b.operand ++ b.trailer ++ flatten blocks) =
          .ok (b.instruction 0, flatten blocks) :=
        Instruction.read_ok_iff.2 ⟨b, rfl, rfl, hs.1⟩
      have hc : Instruction.read 0 b.opcode (b.operand ++ b.trailer ++ flatten blocks) =
          .ok (c.instruction 0, flatten blocks') :=
        Instruction.read_ok_iff.2 ⟨c, h, rfl, hs'.1⟩
      rw [hb, Except.ok.injEq, Prod.mk.injEq] at hc
      obtain ⟨hi, hrest⟩ := hc
      rw [flatten_cons, flatten_cons, hrest] at h
      rw [eq_of_bytes_eq (List.append_cancel_right h) (congrArg Instruction.hasExtra hi),
        ih hs.2 hs'.2 hrest]

end Block

/-! ## Sections -/

/-- The code is a header and these phrases, one after the other. -/
structure Derives (code : Bytes) (h : Header) (ps : List Phrase) : Prop where
  valid : ∀ p ∈ ps, p.Valid
  /-- No phrase without an extra block is followed by the tag of one. -/
  apart : ps.IsChain fun p q => p.extra = none → q.opcode ≠ 0x77
  code_eq : code = h.bytes ++ ps.flatMap Phrase.bytes

/-- The assembly has this header and lists these phrases, each at its place. -/
structure Assembly.Lists (asm : Assembly) (h : Header) (ps : List Phrase) : Prop where
  version : asm.version = h.version
  marker : asm.marker.toNat = h.low.toNat + 256 * h.high.toNat
  size : asm.instructions.size = ps.length
  instruction : ∀ (k : Nat) (p : Phrase), ps[k]? = some p →
    ∃ i : Instruction, asm.instructions[k]? = some i ∧
      i.address = 3 + ((ps.take k).flatMap Phrase.bytes).length ∧
      i.length = p.bytes.length ∧ i.opcode = p.opcode ∧ i.hasExtra = p.extra.isSome ∧
      (i.kind = .stringLoad ↔ 0x69 ≤ p.opcode ∧ p.opcode ≤ 0x6D)

theorem derives_iff {code : Bytes} {h : Header} {ps : List Phrase} :
    Derives code h ps ↔ ∃ blocks : List Block, Block.Separated blocks ∧
      code = h.bytes ++ Block.flatten blocks ∧ blocks.map Block.phrase = ps := by
  constructor
  · rintro ⟨hv, ha, hc⟩
    obtain ⟨blocks, rfl⟩ := Block.exists_map_phrase_eq hv
    rw [Block.flatMap_bytes_phrase] at hc
    exact ⟨blocks, Block.separated_iff_isChain.2 ha, hc, rfl⟩
  · rintro ⟨blocks, hs, hc, rfl⟩
    refine ⟨?_, Block.separated_iff_isChain.1 hs, by rw [Block.flatMap_bytes_phrase, hc]⟩
    rintro p hp
    obtain ⟨b, -, rfl⟩ := List.mem_map.1 hp
    exact b.valid_phrase

theorem Header.bytes_injective : Function.Injective Header.bytes := by
  rintro ⟨version, low, high⟩ ⟨version', low', high'⟩ h
  simpa [Header.bytes] using h

theorem Derives.unique {code : Bytes} {h h' : Header} {ps ps' : List Phrase}
    (hd : Derives code h ps) (hd' : Derives code h' ps') : h = h' ∧ ps = ps' := by
  obtain ⟨blocks, hs, rfl, rfl⟩ := derives_iff.1 hd
  obtain ⟨blocks', hs', hc, rfl⟩ := derives_iff.1 hd'
  obtain ⟨hh, hb⟩ := List.append_inj hc rfl
  exact ⟨Header.bytes_injective hh, by rw [Block.eq_of_flatten_eq hs hs' hb]⟩

namespace Assembly

theorem lists_ofBlocks (h : Header) (blocks : List Block) :
    (ofBlocks h blocks).Lists h (blocks.map Block.phrase) where
  version := rfl
  marker := by
    have := h.low.toNat_lt
    have := h.high.toNat_lt
    simp only [ofBlocks, Bytes.word16, UInt16.toNat_ofNat']
    omega
  size := by rw [size_ofBlocks, List.length_map]
  instruction := by
    intro k p hk
    rw [List.getElem?_map, Option.map_eq_some_iff] at hk
    obtain ⟨b, hb, rfl⟩ := hk
    refine ⟨_, (getElem?_of_block hb).1, ?_, rfl, rfl, rfl, Opcode.kind_eq_stringLoad_iff⟩
    rw [← List.map_take, Block.flatMap_bytes_phrase]
    rfl

/-- Decoding accepts exactly the code sections of the grammar that are not longer than jumps can
reach. Such a section has one derivation, and the assembly lists its phrases. Every other
section is damaged at an offset that is not behind its end. -/
theorem decode_accepts_grammar (code : Bytes) :
    ((∃ asm, decode code = .ok asm) ↔
        code.length ≤ 0x7FFFFFFF ∧ ∃ h ps, Derives code h ps) ∧
      (∀ h ps h' ps', Derives code h ps → Derives code h' ps' → h = h' ∧ ps = ps') ∧
      (∀ asm h ps, decode code = .ok asm → Derives code h ps → asm.Lists h ps) ∧
      (∀ e, decode code = .error e →
        ∃ offset damage, e = .structural offset damage ∧ offset ≤ code.length) := by
  refine ⟨⟨?_, ?_⟩, fun _ _ _ _ => Derives.unique, ?_, ?_⟩
  · rintro ⟨asm, h⟩
    obtain ⟨hle, hd, blocks, hs, hc, -⟩ := decode_ok_iff.1 h
    exact ⟨hle, hd, _, derives_iff.2 ⟨blocks, hs, hc, rfl⟩⟩
  · rintro ⟨hle, hd, ps, h⟩
    obtain ⟨blocks, hs, hc, -⟩ := derives_iff.1 h
    exact ⟨_, decode_ok_iff.2 ⟨hle, hd, blocks, hs, hc, rfl⟩⟩
  · intro asm hd ps h hdv
    obtain ⟨-, hd', blocks, hs, hc, rfl⟩ := decode_ok_iff.1 h
    obtain ⟨rfl, rfl⟩ := hdv.unique (derives_iff.2 ⟨blocks, hs, hc, rfl⟩)
    exact lists_ofBlocks hd blocks
  · intro e h
    obtain ⟨offset, damage, rfl, -, hle⟩ := damageIn_of_decode h
    exact ⟨offset, damage, rfl, hle⟩

/-- One phrase of each shape: the operand of the first looks like two tags, and the third has an
extra block. -/
def samplePhrases : List Phrase :=
  [⟨0x10, [0x77, 0x77], none⟩, ⟨0x40, [5, 0x61, 0], none⟩,
    ⟨0x6A, [0x41, 0], some [1, 2, 3, 4, 5, 6, 7, 8]⟩, ⟨0x80, [1, 2, 3, 4, 5, 6, 7, 8], none⟩]

def sampleSection : Bytes := [1, 0xAB, 0] ++ samplePhrases.flatMap Phrase.bytes

theorem decode_accepts_grammar_sample :
    Derives sampleSection ⟨1, 0xAB, 0⟩ samplePhrases ∧
      ∃ asm, decode sampleSection = .ok asm ∧ asm.Lists ⟨1, 0xAB, 0⟩ samplePhrases := by
  have hd : Derives sampleSection ⟨1, 0xAB, 0⟩ samplePhrases := by
    refine ⟨?_, by simp [samplePhrases], rfl⟩
    intro p hp
    simp only [samplePhrases, List.mem_cons, List.not_mem_nil, or_false] at hp
    rcases hp with rfl | rfl | rfl | rfl
    · exact ⟨.pair (by decide) rfl, by simp⟩
    · exact ⟨@Phrase.Takes.byteText 0x40 [0x61] (by decide) 5 (by decide), by simp⟩
    · exact ⟨@Phrase.Takes.text 0x6A [0x41] (by decide) (by decide), by simp⟩
    · exact ⟨.quad (by decide) rfl, by simp⟩
  obtain ⟨hok, -, hlists, -⟩ := decode_accepts_grammar sampleSection
  obtain ⟨asm, ha⟩ := hok.2 ⟨by decide, _, _, hd⟩
  exact ⟨hd, asm, ha, hlists asm _ _ ha hd⟩

end Assembly

end Dialogue
