import Mathlib
import Dialogue.Proofs.Container
import Dialogue.Proofs.Relocation

/-!
# Scripts as blocks

`Method.Atomic`: a method that fails has not touched the script. Both imports are atomic, so what
they come to is said by `apply` and `importText`. `s.HasBlocks h blocks`: the code of the script is a
section of this header and these separated blocks, and its assembly lists them. A loaded script has
blocks (`exists_hasBlocks_of_load`), and applying replacements gives it others (`apply_ok_iff`).
The main result is `decode_relocated`: the rebuilt code decodes again, to the same program
with other texts.
-/

namespace Dialogue

open Relocation

namespace Script

/-! ## Methods -/

namespace Method

section
variable {α β : Type} {x : Method α} {s s' : Script} {a : α} {e : ScriptError}

theorem exec_get_bind (f : Script → Method β) (s : Script) :
    (get >>= f : Method β).exec s = (f s).exec s := rfl

theorem exec_lift_bind (r : Except ScriptError α) (f : α → Method β) (s : Script) :
    (liftM r >>= f : Method β).exec s =
      match r with
      | .error e => (.error e, s)
      | .ok a => (f a).exec s := by
  cases r <;> rfl

theorem result_ok_iff : x.result s = .ok (s', a) ↔ x.exec s = (.ok a, s') := by
  unfold result
  split
  · next h => simp [h]
  · next h => simp [h, and_comm]

theorem result_error_iff : x.result s = .error e ↔ (x.exec s).1 = .error e := by
  unfold result
  split
  · next h => simp [h]
  · next h => simp [h]

/-- A method that fails has not touched the script. -/
def Atomic (x : Method α) : Prop := ∀ (s : Script) (e : ScriptError),
  (x.exec s).1 = .error e → (x.exec s).2 = s

theorem Atomic.left_of_error (hx : x.Atomic) (h : x.result s = .error e) : (x.exec s).2 = s :=
  hx s e (result_error_iff.1 h)

end

end Method

section
variable {charset : Charset} {m : Replacements} {s : Script}

/-- The script is changed only when nothing can fail any more. -/
theorem exec_relocateInPlace :
    (relocateInPlace charset m).exec s =
      match relocate charset s.container s.assembly m with
      | .error e => (.error e, s)
      | .ok r =>
        match Assembly.decode r.code with
        | .error e => (.error e, s)
        | .ok asm => (.ok r.report, ⟨s.container.replaceCode r.jumps r.code, asm⟩) := by
  rw [relocateInPlace, Method.exec_get_bind, Method.exec_lift_bind]
  cases relocate charset s.container s.assembly m with
  | error e => rfl
  | ok r =>
    dsimp only
    rw [Method.exec_lift_bind]
    cases Assembly.decode r.code <;> rfl

theorem atomic_relocateInPlace (charset : Charset) (m : Replacements) :
    (relocateInPlace charset m).Atomic := by
  intro s e h
  rw [exec_relocateInPlace] at h ⊢
  cases hr : relocate charset s.container s.assembly m with
  | error e' => rfl
  | ok r =>
    rw [hr] at h
    dsimp only at h ⊢
    cases hd : Assembly.decode r.code with
    | error e' => rfl
    | ok asm =>
      rw [hd] at h
      cases h

theorem atomic_applyInPlace (charset : Charset) (m : Replacements) :
    (applyInPlace charset m).Atomic := by
  unfold applyInPlace
  split
  · intro s e h
    cases h
  · exact atomic_relocateInPlace charset m

theorem apply_of_isEmpty (hm : m.isEmpty = true) : s.apply charset m = .ok (s, .empty) := by
  rw [apply, applyInPlace, if_pos hm]
  rfl

/-- What `apply` comes to without the shortcut for an empty map. -/
def applyAlways (s : Script) (charset : Charset) (m : Replacements) :
    Except ScriptError (Script × RelocationReport) :=
  (relocateInPlace charset m).result s

theorem apply_eq_applyAlways (hm : m.isEmpty = false) :
    s.apply charset m = s.applyAlways charset m := by
  rw [apply, applyInPlace, hm, if_neg Bool.false_ne_true]
  rfl

theorem applyAlways_eq : s.applyAlways charset m =
    match relocate charset s.container s.assembly m with
    | .error e => .error e
    | .ok r =>
      match Assembly.decode r.code with
      | .error e => .error e
      | .ok asm => .ok (⟨s.container.replaceCode r.jumps r.code, asm⟩, r.report) := by
  rw [applyAlways, Method.result, exec_relocateInPlace]
  cases relocate charset s.container s.assembly m with
  | error e => rfl
  | ok r =>
    dsimp only
    cases Assembly.decode r.code <;> rfl

theorem exec_importInPlace (text : String) :
    (importInPlace charset text).exec s =
      match Artifact.parse text with
      | .error e => (.error e, s)
      | .ok m => (applyInPlace charset m).exec s := by
  rw [importInPlace, Method.exec_lift_bind]
  cases Artifact.parse text <;> rfl

theorem atomic_importInPlace (charset : Charset) (text : String) :
    (importInPlace charset text).Atomic := by
  intro s e h
  rw [exec_importInPlace] at h ⊢
  cases hp : Artifact.parse text with
  | error e' => rfl
  | ok m =>
    rw [hp] at h
    exact atomic_applyInPlace charset m s e h

theorem importText_eq (text : String) :
    s.importText charset text =
      match Artifact.parse text with
      | .error e => .error e
      | .ok m => s.apply charset m := by
  rw [importText, Method.result, exec_importInPlace]
  cases Artifact.parse text <;> rfl

end

/-! ## Blocks -/

structure HasBlocks (s : Script) (h : Header) (blocks : List Block) : Prop where
  separated : Block.Separated blocks
  code_eq : s.container.code = h.bytes ++ Block.flatten blocks
  assembly_eq : s.assembly = Assembly.ofBlocks h blocks
  length_le : s.container.code.length ≤ addressLimit

theorem load_ok_iff {file : Bytes} {s : Script} :
    load file = .ok s ↔ Container.parse file = .ok s.container ∧
      Assembly.decode s.container.code = .ok s.assembly := by
  unfold load
  constructor
  · intro h
    split at h
    · cases h
    · next c hc =>
      split at h
      · cases h
      · next asm ha =>
        cases h
        exact ⟨hc, ha⟩
  · rintro ⟨hc, ha⟩
    simp only [hc, ha]

theorem exists_hasBlocks_of_load {file : Bytes} {s : Script} (h : load file = .ok s) :
    ∃ hd blocks, s.HasBlocks hd blocks := by
  obtain ⟨hle, hd, blocks, hs, hc, ha⟩ := Assembly.decode_ok_iff.1 (load_ok_iff.1 h).2
  exact ⟨hd, blocks, hs, hc, ha, hle⟩

section
variable {charset : Charset} {m : Replacements} {s : Script} {hd : Header} {blocks : List Block}

theorem HasBlocks.decode (hb : s.HasBlocks hd blocks) :
    Assembly.decode s.container.code = .ok s.assembly :=
  Assembly.decode_ok_iff.2 ⟨hb.length_le, hd, blocks, hb.separated, hb.code_eq, hb.assembly_eq⟩

theorem HasBlocks.ascending (hb : s.HasBlocks hd blocks) :
    Assembly.Ascending s.assembly.instructions := by
  rw [hb.assembly_eq]
  exact Assembly.ascending_ofBlocks hd blocks

theorem HasBlocks.relocate_ok_iff (hb : s.HasBlocks hd blocks) {r : Relocated} :
    relocate charset s.container s.assembly m = .ok r ↔
      ∃ blocks', Rebuilt charset m Assembly.headerSize blocks blocks' ∧
        (hd.bytes ++ Block.flatten blocks').length ≤ addressLimit ∧
        r = ⟨hd.bytes ++ Block.flatten blocks', patched s.assembly blocks' s.container.jumps,
          Relocation.report s.assembly m s.container.jumps⟩ := by
  rw [hb.assembly_eq]
  exact Relocation.relocate_ok_iff hb.code_eq

/-- The script with other blocks, to which its jumps follow. -/
def withBlocks (s : Script) (hd : Header) (blocks' : List Block) : Script :=
  ⟨s.container.replaceCode (patched s.assembly blocks' s.container.jumps)
    (hd.bytes ++ Block.flatten blocks'), Assembly.ofBlocks hd blocks'⟩

theorem jumps_withBlocks (s : Script) (hd : Header) (blocks' : List Block) :
    (s.withBlocks hd blocks').container.jumps =
      patched s.assembly blocks' s.container.jumps :=
  Container.jumps_replaceCode (length_patched ..)

theorem aux_withBlocks (s : Script) (hd : Header) (blocks' : List Block) :
    (s.withBlocks hd blocks').container.aux = s.container.aux :=
  Container.aux_replaceCode (length_patched ..)

theorem length_rows_withBlocks (s : Script) (hd : Header) (blocks' : List Block) :
    (s.withBlocks hd blocks').container.rows.length = s.container.rows.length :=
  Container.length_rows_replaceCode (length_patched ..)

theorem HasBlocks.rebuilt (hb : s.HasBlocks hd blocks) {blocks' : List Block}
    (hr : Rebuilt charset m Assembly.headerSize blocks blocks')
    (hle : (hd.bytes ++ Block.flatten blocks').length ≤ addressLimit) :
    (s.withBlocks hd blocks').HasBlocks hd blocks' :=
  ⟨hr.separated hb.separated, rfl, rfl, hle⟩

/-- Relocation is the only part of an import that can fail: its code always decodes. -/
theorem HasBlocks.apply_ok_iff (hb : s.HasBlocks hd blocks) (hm : m.isEmpty = false)
    {s' : Script} {rep : RelocationReport} :
    s.apply charset m = .ok (s', rep) ↔
      ∃ blocks', Rebuilt charset m Assembly.headerSize blocks blocks' ∧
        (hd.bytes ++ Block.flatten blocks').length ≤ addressLimit ∧
        s' = s.withBlocks hd blocks' ∧ rep = Relocation.report s.assembly m s.container.jumps := by
  rw [apply_eq_applyAlways hm, applyAlways_eq]
  constructor
  · intro h
    split at h
    · cases h
    · next r hr =>
      obtain ⟨blocks', hbs, hle, rfl⟩ := hb.relocate_ok_iff.1 hr
      have hd' := (hb.rebuilt hbs hle).decode
      simp only [withBlocks, Container.replaceCode] at hd'
      simp only [hd'] at h
      cases h
      exact ⟨blocks', hbs, hle, rfl, rfl⟩
  · rintro ⟨blocks', hbs, hle, rfl, rfl⟩
    have hd' := (hb.rebuilt hbs hle).decode
    simp only [withBlocks, Container.replaceCode] at hd'
    rw [hb.relocate_ok_iff.2 ⟨blocks', hbs, hle, rfl⟩]
    simp only [hd']
    rfl

/-! ## Instructions before and after -/

theorem HasBlocks.block_of_getElem? (hb : s.HasBlocks hd blocks) {k : Nat} {i : Instruction}
    (hk : s.assembly.instructions[k]? = some i) :
    ∃ b, blocks[k]? = some b ∧ i = b.instruction (Assembly.headerSize + Block.offset blocks k) ∧
      b.At s.container.code (Assembly.headerSize + Block.offset blocks k) := by
  rw [hb.assembly_eq] at hk
  rw [hb.code_eq]
  exact Assembly.block_of_getElem? hk

theorem HasBlocks.getElem?_of_block (hb : s.HasBlocks hd blocks) {k : Nat} {b : Block}
    (hk : blocks[k]? = some b) :
    s.assembly.instructions[k]? =
        some (b.instruction (Assembly.headerSize + Block.offset blocks k)) ∧
      b.At s.container.code (Assembly.headerSize + Block.offset blocks k) := by
  rw [hb.assembly_eq, hb.code_eq]
  exact Assembly.getElem?_of_block hk

theorem HasBlocks.block_of_mem (hb : s.HasBlocks hd blocks) {i : Instruction}
    (hi : i ∈ s.assembly.instructions.toList) :
    ∃ (k : Nat) (b : Block), blocks[k]? = some b ∧
      i = b.instruction (Assembly.headerSize + Block.offset blocks k) ∧
      b.At s.container.code (Assembly.headerSize + Block.offset blocks k) := by
  obtain ⟨k, hk⟩ := List.mem_iff_getElem?.1 hi
  rw [Array.getElem?_toList] at hk
  exact ⟨k, hb.block_of_getElem? hk⟩

/-- What the `k`-th block of a rebuilt body is in the new section. -/
theorem rebuilt_getElem? (hd : Header) {blocks' : List Block} {k : Nat} {b : Block}
    (hr : Rebuilt charset m Assembly.headerSize blocks blocks') (hk : blocks[k]? = some b) :
    ∃ b', blocks'[k]? = some b' ∧
      Becomes charset m (Assembly.headerSize + Block.offset blocks k) b b' ∧
      (Assembly.ofBlocks hd blocks').instructions[k]? =
        some (b'.instruction (Assembly.headerSize + Block.offset blocks' k)) ∧
      b'.At (hd.bytes ++ Block.flatten blocks') (Assembly.headerSize + Block.offset blocks' k) := by
  obtain ⟨b', hk', hbb⟩ := hr.getElem? hk
  exact ⟨b', hk', hbb, Assembly.getElem?_of_block hk'⟩

theorem HasBlocks.size_eq_of_rebuilt {s' : Script} {blocks' : List Block}
    (hb : s.HasBlocks hd blocks) (hb' : s'.HasBlocks hd blocks')
    (hr : Rebuilt charset m Assembly.headerSize blocks blocks') :
    s'.assembly.instructions.size = s.assembly.instructions.size := by
  rw [hb.assembly_eq, hb'.assembly_eq, Assembly.size_ofBlocks, Assembly.size_ofBlocks,
    hr.length_eq]

end

/-! ## A sample

Four rows, one of which refers to no instruction, and four instructions: a string load with an
extra block, a pair that looks like two tags, a string load without an extra block, and four
fields. -/

def sampleFile : Bytes :=
  [4, 0, 0, 0, 16, 0, 0, 0x80, 19, 0, 0, 0, 23, 0, 0, 0, 5, 0, 0, 0, 1, 0, 2, 0, 3, 0, 4, 0,
    1, 0xAB, 0,
    0x6B, 0x28, 0x49, 0, 0x77, 1, 2, 3, 4, 5, 6, 7, 8,
    0x10, 0x77, 0x77,
    0x6C, 0x39, 0x4F, 0,
    0x80, 1, 2, 3, 4, 5, 6, 7, 8]

def sample : Script where
  container := {
    rows := [⟨.ofRaw 0x80000010, 1⟩, ⟨.ofRaw 19, 2⟩, ⟨.ofRaw 23, 3⟩, ⟨.ofRaw 5, 4⟩]
    code := sampleFile.drop 28 }
  assembly := {
    version := 1
    marker := 0x00AB
    instructions :=
      #[⟨3, 13, 0x6B, true⟩, ⟨16, 3, 0x10, false⟩, ⟨19, 4, 0x6C, false⟩, ⟨23, 9, 0x80, false⟩] }

/-- A longer text with a zero, a text for no string load, and an empty text. -/
def sampleReplacements : Replacements :=
  ⟨[(3, "A$\x00 b"), (16, "no load"), (19, "")], by decide⟩

def sampleRebuilt : Bytes :=
  [1, 0xAB, 0,
    0x6B, 0x21, 0x04, 0xE0, 0x04, 0x42, 0, 0x77, 1, 2, 3, 4, 5, 6, 7, 8,
    0x10, 0x77, 0x77,
    0x6C, 0,
    0x80, 1, 2, 3, 4, 5, 6, 7, 8]

def sampleReport : RelocationReport := ⟨2, [16], 3, [3]⟩

theorem load_sampleFile : load sampleFile = .ok sample := by cbv

/-! ## The rebuilt program -/

/-- The code that relocation builds decodes to the same program: as many instructions, with the
opcodes, kinds and extra blocks they had. A string load at a key of the replacements is its
opcode, the encrypted text, a zero byte and the extra block it had; every other instruction
has the bytes it had. So an import that relocates also succeeds. -/
theorem decode_relocated {file : Bytes} {s : Script} {charset : Charset} {m : Replacements}
    {r : Relocated} (hs : load file = .ok s)
    (hr : relocate charset s.container s.assembly m = .ok r) :
    ∃ asm, Assembly.decode r.code = .ok asm ∧
      asm.version = s.assembly.version ∧ asm.marker = s.assembly.marker ∧
      asm.instructions.size = s.assembly.instructions.size ∧
      (∀ (k : Nat) (i : Instruction), s.assembly.instructions[k]? = some i →
        ∃ j : Instruction, asm.instructions[k]? = some j ∧
          j.opcode = i.opcode ∧ j.kind = i.kind ∧ j.hasExtra = i.hasExtra ∧
          (∀ text : String, i.kind = .stringLoad → m.get? i.address = some text →
            ∃ plain, charset.encode text = .ok plain ∧
              j.bytes r.code =
                i.opcode :: Cipher.encrypt plain ++ 0 :: i.trailer s.container.code ∧
              i.trailer s.container.code <:+ i.bytes s.container.code ∧
              (i.trailer s.container.code).length = i.extraLength) ∧
          (i.kind ≠ .stringLoad ∨ m.get? i.address = none →
            j.bytes r.code = i.bytes s.container.code)) ∧
      (m.isEmpty = false →
        s.apply charset m = .ok (⟨s.container.replaceCode r.jumps r.code, asm⟩, r.report)) := by
  obtain ⟨hd, blocks, hb⟩ := exists_hasBlocks_of_load hs
  obtain ⟨blocks', hbs, hle, rfl⟩ := hb.relocate_ok_iff.1 hr
  refine ⟨Assembly.ofBlocks hd blocks', (hb.rebuilt hbs hle).decode, ?_, ?_, ?_, ?_, ?_⟩
  · rw [hb.assembly_eq]
    rfl
  · rw [hb.assembly_eq]
    rfl
  · rw [hb.assembly_eq, Assembly.size_ofBlocks, Assembly.size_ofBlocks, hbs.length_eq]
  · intro k i hk
    obtain ⟨b, hbk, rfl, hat⟩ := hb.block_of_getElem? hk
    obtain ⟨b', -, hbb, hj, hat'⟩ := rebuilt_getElem? hd hbs hbk
    refine ⟨_, hj, hbb.opcode_eq, ?_, ?_, ?_, ?_⟩
    · simp only [Instruction.kind, Block.instruction, hbb.opcode_eq]
    · simp only [Block.instruction, hbb.extra_eq]
    · intro text hkind hget
      obtain ⟨plain, he, hp⟩ := hbb.bytes_eq_of_some ((replacement?_eq_get? hkind).trans hget)
      refine ⟨plain, he, ?_⟩
      rw [hat'.bytes_eq, hat.trailer_eq, hat.bytes_eq]
      exact ⟨hp, List.suffix_append _ _, b.length_trailer⟩
    · intro hn
      rw [hat'.bytes_eq, hat.bytes_eq]
      exact hbb.bytes_eq_of_none (replacement?_eq_none hn)
  · intro hm
    exact (hb.apply_ok_iff hm).2 ⟨blocks', hbs, hle, rfl, rfl⟩

theorem decode_relocated_sample :
    load sampleFile = .ok sample ∧
      relocate .shiftJis sample.container sample.assembly sampleReplacements = .ok
        ⟨sampleRebuilt, [.ofRaw 0x80000013, .ofRaw 22, .ofRaw 24, .ofRaw 5], sampleReport⟩ ∧
      ∃ asm, Assembly.decode sampleRebuilt = .ok asm ∧ asm.instructions.size = 4 := by
  have hr : relocate .shiftJis sample.container sample.assembly sampleReplacements = .ok
      ⟨sampleRebuilt, [.ofRaw 0x80000013, .ofRaw 22, .ofRaw 24, .ofRaw 5], sampleReport⟩ := by
    cbv
  obtain ⟨asm, hd, -, -, hn, -⟩ := decode_relocated load_sampleFile hr
  exact ⟨load_sampleFile, hr, asm, hd, hn⟩

end Script

end Dialogue
