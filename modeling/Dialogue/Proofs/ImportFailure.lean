import Dialogue.Proofs.Lines
import Dialogue.Proofs.Session

/-!
# When an import fails

An import fails at the first line that is not well formed. If there is none, it fails at the first
string load, in the order of addresses, whose text has no code in the charset
(`HasBlocks.apply_error_iff`), provided that the code rebuilt up to there can be addressed. Texts at
other addresses make no difference, because relocation looks up string loads only (`emit_congr`),
and the shortcut for an empty map gives the script that relocation gives
(`HasBlocks.apply_map_fst`). An import is done in place, and one that fails has not touched the
script (`atomic_importInPlace`). `importText_failure` puts this together.
-/

namespace Dialogue

namespace Relocation

variable {charset : Charset} {m m₁ m₂ : Replacements} {code : Bytes}

/-! ## Rebuilding that fails -/

/-- The charset has no code for the text. -/
def Unencodable (charset : Charset) (text : String) : Prop :=
  ∀ bytes, charset.encode text ≠ .ok bytes

/-- How long instructions become, up to the first that cannot be rebuilt. -/
def rebuiltLength (charset : Charset) (m : Replacements) (code : Bytes) : List Instruction → Nat
  | [] => 0
  | i :: is =>
    match rebuild charset m code i with
    | .error _ => 0
    | .ok (bs, _) => bs.length + rebuiltLength charset m code is

theorem encode_error_iff {text : String} {e : CharsetError} :
    charset.encode text = .error e ↔ Unencodable charset text ∧ e = .unmappable charset text := by
  unfold Unencodable Charset.encode
  cases charset.scheme.encode text.toList with
  | some bs => simp
  | none => simp [eq_comm]

theorem rebuild_error_iff {i : Instruction} {e : ScriptError} :
    rebuild charset m code i = .error e ↔ ∃ text, replacement? m i = some text ∧
      Unencodable charset text ∧ e = .charset (.unmappable charset text) := by
  unfold rebuild
  cases replacement? m i with
  | none => simp
  | some text =>
    cases he : charset.encode text with
    | ok plain => simp [Unencodable, he]
    | error e' =>
      obtain ⟨hu, rfl⟩ := encode_error_iff.1 he
      simp [he, hu, eq_comm]

/-- Emission fails at the first instruction whose text has no code. -/
theorem emit_error_iff {address : Nat} {is : List Instruction} {e : ScriptError}
    (hle : address + rebuiltLength charset m code is ≤ addressLimit) :
    emit charset m code address is = .error e ↔ ∃ front i back text, is = front ++ i :: back ∧
      (∀ j ∈ front, ∀ t, replacement? m j = some t → ¬ Unencodable charset t) ∧
      replacement? m i = some text ∧ Unencodable charset text ∧
      e = .charset (.unmappable charset text) := by
  induction is generalizing address with
  | nil =>
    have hn : ¬ addressLimit < address := by simp only [rebuiltLength] at hle; omega
    simp [emit, hn]
  | cons i is ih =>
    have hn : ¬ addressLimit < address := by omega
    rw [emit, if_neg hn]
    cases hr : rebuild charset m code i with
    | error e' =>
      obtain ⟨text, ht, hu, rfl⟩ := rebuild_error_iff.1 hr
      constructor
      · intro h
        cases h
        exact ⟨[], i, is, text, rfl, by simp, ht, hu, rfl⟩
      · rintro ⟨front, j, back, t, hs, hfront, hj, -, rfl⟩
        cases front with
        | nil =>
          obtain ⟨rfl, -⟩ := List.cons.inj hs
          rw [ht] at hj
          cases hj
          rfl
        | cons k front =>
          obtain ⟨rfl, -⟩ := List.cons.inj hs
          exact absurd hu (hfront i List.mem_cons_self text ht)
    | ok r =>
      obtain ⟨bs, new⟩ := r
      rw [rebuiltLength, hr] at hle
      have hle' : address + bs.length + rebuiltLength charset m code is ≤ addressLimit := by
        dsimp only at hle
        omega
      have hstep := ih hle'
      have hi (t : String) (ht : replacement? m i = some t) : ¬ Unencodable charset t := by
        intro hu
        rw [rebuild_error_iff.2 ⟨t, ht, hu, rfl⟩] at hr
        cases hr
      constructor
      · intro h
        dsimp only at h
        split at h
        · next e' he =>
          cases h
          obtain ⟨front, j, back, t, rfl, hfront, hj, hu, rfl⟩ := hstep.1 he
          exact ⟨i :: front, j, back, t, rfl, List.forall_mem_cons.2 ⟨hi, hfront⟩, hj, hu, rfl⟩
        · cases h
      · rintro ⟨front, j, back, t, hs, hfront, hj, hu, rfl⟩
        cases front with
        | nil =>
          obtain ⟨rfl, -⟩ := List.cons.inj hs
          exact absurd hu (hi t hj)
        | cons k front =>
          obtain ⟨rfl, rfl⟩ := List.cons.inj hs
          have hrest := hstep.2
            ⟨front, j, back, t, rfl, (List.forall_mem_cons.1 hfront).2, hj, hu, rfl⟩
          simp only [hrest]

/-- Only what is found for the instructions matters. -/
theorem emit_congr {is : List Instruction} (h : ∀ i ∈ is, replacement? m₁ i = replacement? m₂ i)
    (address : Nat) : emit charset m₁ code address is = emit charset m₂ code address is := by
  induction is generalizing address with
  | nil => rfl
  | cons i is ih =>
    obtain ⟨hi, his⟩ := List.forall_mem_cons.1 h
    have hr : rebuild charset m₁ code i = rebuild charset m₂ code i := by
      unfold rebuild
      rw [hi]
    simp only [emit, hr, ih his]

theorem relocate_error_iff {c : Container} {asm : Assembly} {e : ScriptError} :
    relocate charset c asm m = .error e ↔
      emit charset m c.code Assembly.headerSize asm.instructions.toList = .error e := by
  unfold relocate
  cases emit charset m c.code Assembly.headerSize asm.instructions.toList with
  | error e' => simp
  | ok pieces => simp

end Relocation

namespace Script

open Relocation

variable {charset : Charset} {m : Replacements} {s : Script} {hd : Header} {blocks : List Block}

/-! ## The script that relocation gives -/

/-- The script after a relocation, also if there is nothing to replace. -/
def relocated (s : Script) (charset : Charset) (m : Replacements) : Except ScriptError Script :=
  (s.applyAlways charset m).map Prod.fst

theorem HasBlocks.relocated_ok (hb : s.HasBlocks hd blocks) {blocks' : List Block}
    (hr : Rebuilt charset m Assembly.headerSize blocks blocks')
    (hle : (hd.bytes ++ Block.flatten blocks').length ≤ addressLimit) :
    s.relocated charset m = .ok (s.withBlocks hd blocks') := by
  have hdec := (hb.rebuilt hr hle).decode
  simp only [withBlocks, Container.replaceCode] at hdec
  rw [relocated, applyAlways_eq, hb.relocate_ok_iff.2 ⟨blocks', hr, hle, rfl⟩]
  simp only [hdec]
  rfl

/-- Without replacements, too, a script comes to what relocation gives. -/
theorem HasBlocks.apply_map_fst (hb : s.HasBlocks hd blocks) :
    (s.apply charset m).map Prod.fst = s.relocated charset m := by
  cases hm : m.isEmpty with
  | true =>
    have ha : s.apply charset m = .ok (s, .empty) := apply_of_isEmpty hm
    obtain ⟨blocks', hr, hle, hs⟩ := hb.exists_rebuilt_of_apply ha
    rw [hb.relocated_ok hr hle, ← hs, ha]
    rfl
  | false => rw [apply_eq_applyAlways hm, relocated]

theorem apply_error_iff_map {e : ScriptError} :
    s.apply charset m = .error e ↔ (s.apply charset m).map Prod.fst = .error e := by
  cases s.apply charset m <;> simp [Except.map]

theorem HasBlocks.relocated_error_iff (hb : s.HasBlocks hd blocks) {e : ScriptError} :
    s.relocated charset m = .error e ↔ relocate charset s.container s.assembly m = .error e := by
  cases hr : relocate charset s.container s.assembly m with
  | error e' => simp [relocated, applyAlways_eq, hr, Except.map]
  | ok r =>
    obtain ⟨blocks', hbs, hle, -⟩ := hb.relocate_ok_iff.1 hr
    simp [hb.relocated_ok hbs hle]

/-- Maps that have the same texts for the string loads give the same script or the same error. -/
theorem HasBlocks.apply_congr (hb : s.HasBlocks hd blocks) {m₁ m₂ : Replacements}
    (h : ∀ i ∈ s.assembly.instructions, i.kind = .stringLoad →
      m₁.get? i.address = m₂.get? i.address) :
    (s.apply charset m₁).map Prod.fst = (s.apply charset m₂).map Prod.fst := by
  have hr (i : Instruction) (hi : i ∈ s.assembly.instructions.toList) :
      replacement? m₁ i = replacement? m₂ i := by
    by_cases hk : i.kind = .stringLoad
    · rw [replacement?_eq_get? hk, replacement?_eq_get? hk, h i (Array.mem_toList_iff.1 hi) hk]
    · rw [replacement?_eq_none (.inl hk), replacement?_eq_none (.inl hk)]
  rw [hb.apply_map_fst, hb.apply_map_fst]
  unfold relocated
  rw [applyAlways_eq, applyAlways_eq]
  unfold relocate
  rw [emit_congr hr]
  cases emit charset m₂ s.container.code Assembly.headerSize s.assembly.instructions.toList with
  | error e => rfl
  | ok replay =>
    -- both decode the same code, and only the reports can differ
    dsimp only
    cases Assembly.decode (s.container.code.take Assembly.headerSize ++
      replay.pieces.flatMap (·.2)) <;> rfl

/-! ## The string load that stops an import -/

/-- The instruction is a string load, and the text given for it has no code. -/
structure Refuses (s : Script) (charset : Charset) (m : Replacements) (i : Instruction)
    (text : String) : Prop where
  mem : i ∈ s.assembly.instructions
  stringLoad : i.kind = .stringLoad
  given : m.get? i.address = some text
  unencodable : Unencodable charset text

/-- Of the string loads whose texts have no code, this is the one at the lowest address. -/
def RefusesFirst (s : Script) (charset : Charset) (m : Replacements) (i : Instruction)
    (text : String) : Prop :=
  s.Refuses charset m i text ∧
    ∀ (j : Instruction) (t : String), s.Refuses charset m j t → i.address ≤ j.address

/-- The size of the code that is rebuilt, up to the first text that has no code. -/
def rebuiltSize (s : Script) (charset : Charset) (m : Replacements) : Nat :=
  Assembly.headerSize +
    rebuiltLength charset m s.container.code s.assembly.instructions.toList

theorem refuses_iff {i : Instruction} {text : String} : s.Refuses charset m i text ↔
    i ∈ s.assembly.instructions ∧ replacement? m i = some text ∧ Unencodable charset text := by
  constructor
  · rintro ⟨hi, hk, hg, hu⟩
    exact ⟨hi, (replacement?_eq_get? hk).trans hg, hu⟩
  · rintro ⟨hi, hr, hu⟩
    obtain ⟨hk, hg⟩ := stringLoad_of_replacement? hr
    exact ⟨hi, hk, hg, hu⟩

theorem exists_refusesFirst_iff :
    (∃ i text, s.RefusesFirst charset m i text) ↔ ∃ i text, s.Refuses charset m i text := by
  classical
  constructor
  · rintro ⟨i, text, h, -⟩
    exact ⟨i, text, h⟩
  · rintro ⟨i, text, h⟩
    have hex : ∃ address i text, s.Refuses charset m i text ∧ i.address = address :=
      ⟨_, i, text, h, rfl⟩
    obtain ⟨j, t, hj, ha⟩ := Nat.find_spec hex
    refine ⟨j, t, hj, fun k u hk => ?_⟩
    rw [ha]
    exact Nat.find_min' hex ⟨k, u, hk, rfl⟩

theorem HasBlocks.apply_error_iff (hb : s.HasBlocks hd blocks)
    (hle : s.rebuiltSize charset m ≤ addressLimit) {e : ScriptError} :
    s.apply charset m = .error e ↔ ∃ i text, s.RefusesFirst charset m i text ∧
      e = .charset (.unmappable charset text) := by
  rw [apply_error_iff_map, hb.apply_map_fst, hb.relocated_error_iff, relocate_error_iff,
    emit_error_iff hle]
  have hasc : s.assembly.instructions.toList.Pairwise (·.address < ·.address) := hb.ascending
  constructor
  · rintro ⟨front, i, back, text, hs, hfront, hi, hu, rfl⟩
    rw [hs, List.pairwise_append] at hasc
    have hmem (j : Instruction) : j ∈ s.assembly.instructions ↔ j ∈ front ∨ j = i ∨ j ∈ back := by
      rw [← Array.mem_toList_iff, hs, List.mem_append, List.mem_cons]
    refine ⟨i, text, ⟨refuses_iff.2 ⟨(hmem i).2 (.inr (.inl rfl)), hi, hu⟩, ?_⟩, rfl⟩
    intro j t hj
    obtain ⟨hm, hr, hju⟩ := refuses_iff.1 hj
    rcases (hmem j).1 hm with hm | rfl | hm
    · exact absurd hju (hfront j hm t hr)
    · exact Nat.le_refl _
    · exact Nat.le_of_lt ((List.pairwise_cons.1 hasc.2.1).1 j hm)
  · rintro ⟨i, text, ⟨hi, hlow⟩, rfl⟩
    obtain ⟨hm, hr, hu⟩ := refuses_iff.1 hi
    obtain ⟨front, back, hs⟩ := List.append_of_mem (Array.mem_toList_iff.2 hm)
    refine ⟨front, i, back, text, hs, fun j hj t ht hju => ?_, hr, hu, rfl⟩
    have hmem : j ∈ s.assembly.instructions := by
      rw [← Array.mem_toList_iff, hs]
      exact List.mem_append_left _ hj
    have hge := hlow j t (refuses_iff.2 ⟨hmem, ht, hju⟩)
    rw [hs, List.pairwise_append] at hasc
    have hlt := hasc.2.2 j hj i List.mem_cons_self
    omega

/-- An import fails exactly if a line of the artifact is not well formed or a text given for a
string load has no code. The first such line is reported; if there is none, the text of the first
such string load is. What is given for other addresses makes no difference to the error, the code or
the jumps, and an import in place that fails leaves the script as it was. -/
theorem importText_failure {file : Bytes} {s : Script} (hs : load file = .ok s)
    (charset : Charset) (text : String)
    (hsize : ∀ m, Artifact.parse text = .ok m → s.rebuiltSize charset m ≤ addressLimit) :
    ((∃ e, s.importText charset text = .error e) ↔
      (∃ l ∈ Artifact.lines text, ¬ Artifact.WellFormed l) ∨
      ∃ m i t, Artifact.parse text = .ok m ∧ s.Refuses charset m i t) ∧
    (∀ k l, Artifact.FirstFaulty (Artifact.lines text) k l →
      s.importText charset text = .error (.format k (Artifact.faultOf l))) ∧
    (∀ m i t, Artifact.parse text = .ok m → s.RefusesFirst charset m i t →
      s.importText charset text = .error (.charset (.unmappable charset t))) ∧
    (∀ m₁ m₂ : Replacements,
      (∀ i ∈ s.assembly.instructions, i.kind = .stringLoad →
        m₁.get? i.address = m₂.get? i.address) →
      (s.apply charset m₁).map Prod.fst = (s.apply charset m₂).map Prod.fst) ∧
    ∀ e, s.importText charset text = .error e →
      Session.step ⟨s, charset⟩ (.importText text) = ⟨s, charset⟩ := by
  obtain ⟨hd, blocks, hb⟩ := exists_hasBlocks_of_load hs
  have hparsed (m : Replacements) (hm : Artifact.parse text = .ok m) :
      s.importText charset text = s.apply charset m := by
    rw [importText_eq, hm]
  have hfirst (k : Nat) (l : List Char) (h : Artifact.FirstFaulty (Artifact.lines text) k l) :
      Artifact.parse text = .error (.format k (Artifact.faultOf l)) :=
    Artifact.parse_error_iff.2 ⟨k, l, h, rfl⟩
  refine ⟨?_, ?_, ?_, fun m₁ m₂ => hb.apply_congr, ?_⟩
  · rw [← Artifact.exists_firstFaulty_iff]
    cases hp : Artifact.parse text with
    | error e =>
      obtain ⟨k, l, hk, -⟩ := Artifact.parse_error_iff.1 hp
      have hi : s.importText charset text = .error e := by
        rw [importText_eq, hp]
      exact iff_of_true ⟨e, hi⟩ (.inl ⟨k, l, hk⟩)
    | ok m =>
      have hnone : ¬ ∃ k l, Artifact.FirstFaulty (Artifact.lines text) k l := by
        rintro ⟨k, l, hk⟩
        rw [hfirst k l hk] at hp
        cases hp
      rw [hparsed m hp, or_iff_right hnone]
      simp only [hb.apply_error_iff (hsize m hp), Except.ok.injEq, exists_and_left,
        exists_eq_left', ← exists_refusesFirst_iff]
      constructor
      · rintro ⟨e, i, t, h, -⟩
        exact ⟨i, t, h⟩
      · rintro ⟨i, t, h⟩
        exact ⟨_, i, t, h, rfl⟩
  · intro k l hk
    rw [importText_eq, hfirst k l hk]
  · intro m i t hm h
    rw [hparsed m hm]
    exact (hb.apply_error_iff (hsize m hm)).2 ⟨i, t, h, rfl⟩
  · intro e he
    rw [Session.step, Session.perform, (atomic_importInPlace charset text).left_of_error he]

/-- Texts with a character that GB 18030 has no code for, at an instruction that is no string load
and at the second string load, before a text for the first. -/
def sampleRefused : String := "◆00000010◆\uE5E5\n◆00000013◆\uE5E5!\n◆00000003◆ok\n"

theorem importText_failure_sample :
    load sampleFile = .ok sample ∧
      sample.importText .gb18030 sampleRefused =
        .error (.charset (.unmappable .gb18030 "\uE5E5!")) := by
  have hp : Artifact.parse sampleRefused =
      .ok ⟨[(3, "ok"), (16, "\uE5E5"), (19, "\uE5E5!")], by decide⟩ := by cbv
  have hn : Charset.encode .gb18030 "\uE5E5!" = .error (.unmappable .gb18030 "\uE5E5!") := by cbv
  have hk : Charset.encode .gb18030 "ok" = .ok [0x6F, 0x6B] := by cbv
  have hlen : sample.rebuiltSize .gb18030
      ⟨[(3, "ok"), (16, "\uE5E5"), (19, "\uE5E5!")], by decide⟩ = 19 := by cbv
  have hsize (m : Replacements) (hm : Artifact.parse sampleRefused = .ok m) :
      sample.rebuiltSize .gb18030 m ≤ addressLimit := by
    rw [hp] at hm
    cases hm
    rw [hlen]
    decide
  have hfirst : sample.RefusesFirst .gb18030
      ⟨[(3, "ok"), (16, "\uE5E5"), (19, "\uE5E5!")], by decide⟩ ⟨19, 4, 0x6C, false⟩ "\uE5E5!" := by
    refine ⟨⟨by simp [sample], rfl, rfl, (encode_error_iff.1 hn).1⟩, ?_⟩
    rintro j t ⟨hj, hkind, hget, hu⟩
    simp only [sample, List.mem_toArray, List.mem_cons, List.not_mem_nil, or_false] at hj
    rcases hj with rfl | rfl | rfl | rfl
    · -- the text of the first string load has a code
      cases Option.some.inj hget
      exact absurd hk (hu _)
    · exact absurd hkind (by decide)
    · exact Nat.le_refl _
    · exact absurd hkind (by decide)
  obtain ⟨-, -, hrefused, -, -⟩ :=
    importText_failure load_sampleFile .gb18030 sampleRefused hsize
  exact ⟨load_sampleFile, hrefused _ _ _ hp hfirst⟩

end Script

end Dialogue
