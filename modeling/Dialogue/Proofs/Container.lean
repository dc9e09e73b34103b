import Dialogue.Container

/-!
# Containers and their bytes

Both columns are written the way they were read (`tables_ofTables`), so a parsed file is written
back byte for byte (`toBytes_of_parse`). A written container is read back if its rows can be
counted in 32 bits (`parse_toBytes`). `replaceCode` gives each row another jump entry and keeps
its auxiliary value.
-/

namespace Dialogue

namespace Bytes

theorem ofWord16_word16 (b₀ b₁ : UInt8) : ofWord16 (word16 b₀ b₁) = [b₀, b₁] := by
  have h₀ := b₀.toNat_lt
  have h₁ := b₁.toNat_lt
  simp only [ofWord16, word16, UInt16.toNat_ofNat', List.cons.injEq, ← UInt8.toNat_inj,
    UInt8.toNat_ofNat', and_true]
  omega

theorem ofWord32_word32 (b₀ b₁ b₂ b₃ : UInt8) :
    ofWord32 (word32 b₀ b₁ b₂ b₃) = [b₀, b₁, b₂, b₃] := by
  have h₀ := b₀.toNat_lt
  have h₁ := b₁.toNat_lt
  have h₂ := b₂.toNat_lt
  have h₃ := b₃.toNat_lt
  simp only [ofWord32, word32, UInt32.toNat_ofNat', List.cons.injEq, ← UInt8.toNat_inj,
    UInt8.toNat_ofNat', and_true]
  omega

theorem word16_toNat (w : UInt16) :
    word16 (UInt8.ofNat (w.toNat % 256)) (UInt8.ofNat (w.toNat / 256)) = w := by
  have hw := w.toNat_lt
  simp only [word16, ← UInt16.toNat_inj, UInt16.toNat_ofNat', UInt8.toNat_ofNat']
  omega

theorem word32_toNat (w : UInt32) :
    word32 (UInt8.ofNat (w.toNat % 256)) (UInt8.ofNat (w.toNat / 256 % 256))
      (UInt8.ofNat (w.toNat / 65536 % 256)) (UInt8.ofNat (w.toNat / 16777216)) = w := by
  have hw := w.toNat_lt
  simp only [word32, ← UInt32.toNat_inj, UInt32.toNat_ofNat', UInt8.toNat_ofNat']
  omega

@[simp] theorem length_ofWord16 (w : UInt16) : (ofWord16 w).length = 2 := rfl

@[simp] theorem length_ofWord32 (w : UInt32) : (ofWord32 w).length = 4 := rfl

end Bytes

namespace JumpEntry

/-- The flag is bit 31 of the word. -/
theorem testBit_raw (e : JumpEntry) : e.raw.toNat.testBit 31 = e.flag := by
  obtain ⟨flag, target, h⟩ := e
  rw [Nat.testBit_eq_decide_div_mod_eq]
  cases flag
  · simp [raw]
    omega
  · simp [raw]
    omega

theorem target_withTarget {e : JumpEntry} {target : Nat} (h : target ≤ 0x7FFFFFFF) :
    (e.withTarget target).target = target :=
  Nat.mod_eq_of_lt (by omega)

theorem withTarget_target (e : JumpEntry) : e.withTarget e.target = e := by
  obtain ⟨flag, target, h⟩ := e
  simp [withTarget, Nat.mod_eq_of_lt h]

end JumpEntry

namespace Container

theorem takeJumps_spec {count : Nat} {bs : Bytes} (h : 4 * count ≤ bs.length) :
    (takeJumps count bs).1.length = count ∧
      4 * count + (takeJumps count bs).2.length = bs.length ∧
      (takeJumps count bs).1.flatMap (fun e => Bytes.ofWord32 e.raw) ++ (takeJumps count bs).2 =
        bs := by
  induction count generalizing bs with
  | zero => exact ⟨rfl, by simp [takeJumps], rfl⟩
  | succ count ih =>
    match bs, h with
    | b₀ :: b₁ :: b₂ :: b₃ :: bs, h =>
      obtain ⟨hl, hr, hb⟩ :=
        ih (by simp only [List.length_cons] at h; omega : 4 * count ≤ bs.length)
      refine ⟨by simp only [takeJumps, List.length_cons, hl], ?_, ?_⟩
      · simp only [takeJumps, List.length_cons]
        omega
      · simp only [takeJumps, List.flatMap_cons, JumpEntry.raw_ofRaw, Bytes.ofWord32_word32,
          List.append_assoc, hb]
        rfl

theorem takeAux_spec {count : Nat} {bs : Bytes} (h : 2 * count ≤ bs.length) :
    (takeAux count bs).1.length = count ∧
      (takeAux count bs).1.flatMap Bytes.ofWord16 ++ (takeAux count bs).2 = bs := by
  induction count generalizing bs with
  | zero => exact ⟨rfl, rfl⟩
  | succ count ih =>
    match bs, h with
    | b₀ :: b₁ :: bs, h =>
      obtain ⟨hl, hb⟩ := ih (by simp only [List.length_cons] at h; omega : 2 * count ≤ bs.length)
      refine ⟨by simp only [takeAux, List.length_cons, hl], ?_⟩
      simp only [takeAux, List.flatMap_cons, Bytes.ofWord16_word16, List.append_assoc, hb]
      rfl

theorem takeJumps_ofWord32 (count : Nat) (e : JumpEntry) (bs : Bytes) :
    takeJumps (count + 1) (Bytes.ofWord32 e.raw ++ bs) =
      (e :: (takeJumps count bs).1, (takeJumps count bs).2) := by
  simp only [Bytes.ofWord32, List.cons_append, List.nil_append, takeJumps, Bytes.word32_toNat,
    JumpEntry.ofRaw_raw]

theorem takeJumps_flatMap (jumps : List JumpEntry) (rest : Bytes) :
    takeJumps jumps.length (jumps.flatMap (fun e => Bytes.ofWord32 e.raw) ++ rest) =
      (jumps, rest) := by
  induction jumps with
  | nil => rfl
  | cons e jumps ih =>
    rw [List.flatMap_cons, List.append_assoc, List.length_cons, takeJumps_ofWord32, ih]

theorem takeAux_ofWord16 (count : Nat) (w : UInt16) (bs : Bytes) :
    takeAux (count + 1) (Bytes.ofWord16 w ++ bs) =
      (w :: (takeAux count bs).1, (takeAux count bs).2) := by
  simp only [Bytes.ofWord16, List.cons_append, List.nil_append, takeAux, Bytes.word16_toNat]

theorem takeAux_flatMap (aux : List UInt16) (rest : Bytes) :
    takeAux aux.length (aux.flatMap Bytes.ofWord16 ++ rest) = (aux, rest) := by
  induction aux with
  | nil => rfl
  | cons w aux ih =>
    rw [List.flatMap_cons, List.append_assoc, List.length_cons, takeAux_ofWord16, ih]

/-! ## Columns -/

theorem map_jump_zipWith {jumps : List JumpEntry} {aux : List UInt16}
    (h : jumps.length = aux.length) : (List.zipWith Row.mk jumps aux).map (·.jump) = jumps := by
  rw [← List.map_uncurry_zip_eq_zipWith, List.map_map]
  exact List.map_fst_zip (Nat.le_of_eq h)

theorem map_aux_zipWith {jumps : List JumpEntry} {aux : List UInt16}
    (h : jumps.length = aux.length) : (List.zipWith Row.mk jumps aux).map (·.aux) = aux := by
  rw [← List.map_uncurry_zip_eq_zipWith, List.map_map]
  exact List.map_snd_zip (Nat.le_of_eq h.symm)

theorem length_jumps (c : Container) : c.jumps.length = c.rows.length := List.length_map ..

theorem length_aux (c : Container) : c.aux.length = c.rows.length := List.length_map ..

section
variable {c : Container} {jumps : List JumpEntry} {code : Bytes}

theorem jumps_replaceCode (h : jumps.length = c.jumps.length) :
    (c.replaceCode jumps code).jumps = jumps :=
  map_jump_zipWith (by rw [h, length_jumps, length_aux])

theorem aux_replaceCode (h : jumps.length = c.jumps.length) :
    (c.replaceCode jumps code).aux = c.aux :=
  map_aux_zipWith (by rw [h, length_jumps, length_aux])

theorem length_rows_replaceCode (h : jumps.length = c.jumps.length) :
    (c.replaceCode jumps code).rows.length = c.rows.length := by
  rw [← length_aux, aux_replaceCode h, length_aux]

theorem replaceCode_self (c : Container) : c.replaceCode c.jumps c.code = c := by
  obtain ⟨rows, code⟩ := c
  simp only [replaceCode, jumps, aux, mk.injEq, and_true]
  induction rows with
  | nil => rfl
  | cons r rows ih => simp [ih]

end

theorem zipWith_columns (c : Container) : List.zipWith Row.mk c.jumps c.aux = c.rows :=
  congrArg rows c.replaceCode_self

/-! ## The file -/

/-- The bytes of the two columns. -/
def tables (c : Container) : Bytes :=
  c.jumps.flatMap (fun e => Bytes.ofWord32 e.raw) ++ c.aux.flatMap Bytes.ofWord16

/-- The container in what follows the number of rows. -/
def ofTables (count : Nat) (rest : Bytes) : Container :=
  ⟨List.zipWith Row.mk (takeJumps count rest).1 (takeAux count (takeJumps count rest).2).1,
    (takeAux count (takeJumps count rest).2).2⟩

theorem toBytes_eq (c : Container) :
    c.toBytes = Bytes.ofWord32 (UInt32.ofNat c.rows.length) ++ (c.tables ++ c.code) := by
  simp only [toBytes, tables, List.append_assoc]

theorem length_tables (c : Container) : c.tables.length = c.rows.length * rowSize := by
  simp only [tables, List.length_append, List.length_flatMap, Bytes.length_ofWord32,
    Bytes.length_ofWord16, List.map_const', List.sum_replicate_nat, length_jumps, length_aux, rowSize]
  omega

/-- Two containers with as many rows are written alike only if their code is the same. -/
theorem code_eq_of_toBytes_eq {c c' : Container} (hr : c.rows.length = c'.rows.length)
    (h : c.toBytes = c'.toBytes) : c.code = c'.code := by
  rw [toBytes_eq, toBytes_eq, hr] at h
  refine (List.append_inj (List.append_cancel_left h) ?_).2
  rw [length_tables, length_tables, hr]

theorem ofTables_tables (c : Container) : ofTables c.rows.length (c.tables ++ c.code) = c := by
  have hj := takeJumps_flatMap c.jumps (c.aux.flatMap Bytes.ofWord16 ++ c.code)
  have ha := takeAux_flatMap c.aux c.code
  rw [length_jumps] at hj
  rw [length_aux] at ha
  simp only [ofTables, tables, List.append_assoc, hj, ha, zipWith_columns]

/-- Tables that fit have as many rows as they should, and are written the way they were read. -/
theorem tables_ofTables {count : Nat} {rest : Bytes} (h : count * rowSize ≤ rest.length) :
    (ofTables count rest).rows.length = count ∧
      (ofTables count rest).tables ++ (ofTables count rest).code = rest := by
  simp only [rowSize] at h
  obtain ⟨hjl, hrest, hj⟩ := takeJumps_spec (by omega : 4 * count ≤ rest.length)
  obtain ⟨hal, ha⟩ := takeAux_spec (by omega : 2 * count ≤ (takeJumps count rest).2.length)
  have hla := hjl.trans hal.symm
  constructor
  · rw [ofTables, List.length_zipWith, hjl, hal, Nat.min_self]
  · simp only [tables, ofTables, jumps, aux, map_jump_zipWith hla, map_aux_zipWith hla,
      List.append_assoc, ha, hj]

theorem parse_ok_iff {file : Bytes} {c : Container} :
    parse file = .ok c ↔ ∃ (w : UInt32) (rest : Bytes), file = Bytes.ofWord32 w ++ rest ∧
      w.toNat * rowSize ≤ rest.length ∧ c = ofTables w.toNat rest := by
  constructor
  · intro h
    unfold parse at h
    split at h
    · next b₀ b₁ b₂ b₃ rest =>
      simp only at h
      split at h
      · cases h
      · next hlen =>
        cases h
        exact ⟨Bytes.word32 b₀ b₁ b₂ b₃, rest, by rw [Bytes.ofWord32_word32]; rfl,
          Nat.not_lt.1 hlen, rfl⟩
    · cases h
  · rintro ⟨w, rest, rfl, hlen, rfl⟩
    simp only [Bytes.ofWord32, List.cons_append, List.nil_append, parse, Bytes.word32_toNat]
    rw [if_neg (Nat.not_lt.2 hlen)]
    rfl

/-- The tables that a file declares have as many rows as it says. -/
theorem length_rows_lt_of_parse {file : Bytes} {c : Container} (h : parse file = .ok c) :
    c.rows.length < 0x100000000 := by
  obtain ⟨w, rest, -, hlen, rfl⟩ := parse_ok_iff.1 h
  rw [(tables_ofTables hlen).1]
  exact w.toNat_lt

theorem toBytes_of_parse {file : Bytes} {c : Container} (h : parse file = .ok c) :
    c.toBytes = file := by
  obtain ⟨w, rest, rfl, hlen, rfl⟩ := parse_ok_iff.1 h
  obtain ⟨hn, hb⟩ := tables_ofTables hlen
  rw [toBytes_eq, hn, hb, UInt32.ofNat_toNat]

/-- Writing and reading back gives the container again, as long as the number of rows fits the
word that counts them. -/
theorem parse_toBytes {c : Container} (h : c.rows.length < 0x100000000) :
    parse c.toBytes = .ok c := by
  have hn : (UInt32.ofNat c.rows.length).toNat = c.rows.length := by
    rw [UInt32.toNat_ofNat']
    exact Nat.mod_eq_of_lt h
  refine parse_ok_iff.2 ⟨.ofNat c.rows.length, c.tables ++ c.code, c.toBytes_eq, ?_, ?_⟩
  · rw [hn, List.length_append, length_tables]
    exact Nat.le_add_right ..
  · rw [hn, ofTables_tables]

/-! ## Which files are containers -/

/-- The number of rows that a file declares, by its first four bytes. -/
def declared (file : Bytes) : Nat := (file.take 4).foldr (fun b n => b.toNat + 256 * n) 0

theorem declared_cons (b₀ b₁ b₂ b₃ : UInt8) (rest : Bytes) :
    declared (b₀ :: b₁ :: b₂ :: b₃ :: rest) = (Bytes.word32 b₀ b₁ b₂ b₃).toNat := by
  have h₀ := b₀.toNat_lt
  have h₁ := b₁.toNat_lt
  have h₂ := b₂.toNat_lt
  have h₃ := b₃.toNat_lt
  simp only [declared, List.take_succ_cons, List.take_zero, List.foldr_cons, List.foldr_nil,
    Bytes.word32, UInt32.toNat_ofNat']
  omega

theorem parse_of_short {file : Bytes} (h : file.length < 4) :
    parse file = .error (.structural 0 (.endOfData .word32 file.length)) := by
  unfold parse
  split
  · simp only [List.length_cons] at h
    omega
  · rfl

/-- A file that holds the number of its rows parses unless the rows do not fit. -/
theorem parse_of_long {file : Bytes} (h : 4 ≤ file.length) :
    parse file =
      if 4 + rowSize * declared file ≤ file.length then
        .ok (ofTables (declared file) (file.drop 4))
      else .error (.structural 4 (.tableTooLong (declared file) (file.length - 4))) := by
  match file, h with
  | b₀ :: b₁ :: b₂ :: b₃ :: rest, _ =>
    simp only [parse, declared_cons, List.length_cons, List.drop_succ_cons, List.drop_zero]
    by_cases hr : rest.length < (Bytes.word32 b₀ b₁ b₂ b₃).toNat * rowSize
    · rw [if_pos hr, if_neg (by rw [Nat.mul_comm rowSize]; omega)]
      rfl
    · rw [if_neg hr, if_pos (by rw [Nat.mul_comm rowSize]; omega)]
      rfl

theorem ofColumns_ok {jumps : List JumpEntry} {aux : List UInt16} (h : jumps.length = aux.length)
    (code : Bytes) : ∃ c, ofColumns jumps aux code = .ok c ∧ c.jumps = jumps ∧ c.aux = aux ∧
      c.code = code ∧ c.rows.length = jumps.length := by
  refine ⟨_, if_pos h, map_jump_zipWith h, map_aux_zipWith h, rfl, ?_⟩
  rw [List.length_zipWith, h, Nat.min_self]

/-- A file is a container exactly if it holds four bytes and as many rows of six as these declare,
up to the greatest number that they can. A container that was parsed is written as the file it
came from, and one whose rows can be counted parses back from what is written. A file that is no
container is damaged at its start if it is too short for the number of rows, and behind this
number if it is too short for the rows. -/
theorem parse_inverts_toBytes :
    (∀ file : Bytes, (∃ c, parse file = .ok c) ↔
        4 ≤ file.length ∧ 4 + 6 * declared file ≤ file.length) ∧
      (∀ (file : Bytes) (c : Container), parse file = .ok c → c.toBytes = file) ∧
      (∀ (jumps : List JumpEntry) (aux : List UInt16) (code : Bytes),
        jumps.length = aux.length → jumps.length < 0x100000000 →
        ∃ c, ofColumns jumps aux code = .ok c ∧ c.jumps = jumps ∧ c.aux = aux ∧ c.code = code ∧
          parse c.toBytes = .ok c) ∧
      (∀ (file : Bytes) (e : ScriptError), parse file = .error e →
        (file.length < 4 ∧ e = .structural 0 (.endOfData .word32 file.length)) ∨
          (4 ≤ file.length ∧ file.length < 4 + 6 * declared file ∧
            e = .structural 4 (.tableTooLong (declared file) (file.length - 4)))) := by
  refine ⟨fun file => ?_, fun _ _ => toBytes_of_parse, ?_, fun file e h => ?_⟩
  · rcases Nat.lt_or_ge file.length 4 with hs | hl
    · rw [parse_of_short hs]
      simp [Nat.not_le.2 hs]
    · rw [parse_of_long hl, rowSize]
      by_cases hf : 4 + 6 * declared file ≤ file.length
      · simp [hl, hf]
      · simp [hf]
  · intro jumps aux code hn hlt
    obtain ⟨c, hc, hj, ha, hcode, hr⟩ := ofColumns_ok hn code
    exact ⟨c, hc, hj, ha, hcode, parse_toBytes (by rwa [hr])⟩
  · rcases Nat.lt_or_ge file.length 4 with hs | hl
    · rw [parse_of_short hs] at h
      cases h
      exact .inl ⟨hs, rfl⟩
    · rw [parse_of_long hl, rowSize] at h
      split at h
      · cases h
      · next hf =>
        cases h
        exact .inr ⟨hl, Nat.not_le.1 hf, rfl⟩

/-- The greatest number of rows in a file that holds none of them, and a table of two rows. -/
theorem parse_inverts_toBytes_sample :
    (¬ ∃ c, parse [0xFF, 0xFF, 0xFF, 0xFF, 1] = .ok c) ∧
      ∃ c, ofColumns [.ofRaw 0x80000003, .ofRaw 6] [0xABCD, 1] [1, 0xAB, 0] = .ok c ∧
        c.toBytes = [2, 0, 0, 0, 3, 0, 0, 0x80, 6, 0, 0, 0, 0xCD, 0xAB, 1, 0, 1, 0xAB, 0] ∧
        parse c.toBytes = .ok c := by
  obtain ⟨hiff, -, hback, -⟩ := parse_inverts_toBytes
  refine ⟨fun h => absurd ((hiff _).1 h) (by decide), ?_⟩
  obtain ⟨c, hc, -, -, -, hp⟩ :=
    hback [.ofRaw 0x80000003, .ofRaw 6] [0xABCD, 1] [1, 0xAB, 0] rfl (by decide)
  refine ⟨c, hc, ?_, hp⟩
  cases hc
  decide

end Container

end Dialogue
