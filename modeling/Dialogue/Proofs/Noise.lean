import Dialogue.Proofs.ArtifactGrammar
import Dialogue.Proofs.Pieces

/-!
# Noise in edited artifacts

What editors do to an artifact besides editing its texts. They end lines with a carriage return and
a line feed (`crlf`) and put a byte order mark in front, which leaves the lines as they are
(`linesFrom_crlf`). They add and drop lines without texts and write the digits of an address in
another case (`Noise`), which leaves what is collected as it is (`Noise.collect_eq`). The main
result is `parse_of_noise`.
-/

namespace Dialogue.Artifact

/-! ## Line ends -/

/-- The text with a carriage return before each line feed. -/
def crlf (cs : List Char) : List Char :=
  cs.flatMap fun c => if c = '\n' then ['\r', '\n'] else [c]

theorem crlf_newline (cs : List Char) : crlf ('\n' :: cs) = '\r' :: '\n' :: crlf cs := rfl

theorem crlf_cons {c : Char} (h : c ≠ '\n') (cs : List Char) : crlf (c :: cs) = c :: crlf cs := by
  rw [crlf, List.flatMap_cons, if_neg h]
  rfl

/-- A carriage return before a line feed belongs to the line end. -/
theorem linesFrom_return (cur cs : List Char) :
    linesFrom cur ('\r' :: '\n' :: cs) = cur.reverse :: linesFrom [] cs := by
  show linesFrom ('\r' :: cur) ('\n' :: cs) = _
  rw [linesFrom_newline, withoutReturn, List.reverse_cons, List.getLast?_concat, if_pos rfl,
    List.dropLast_concat]

theorem linesFrom_crlf {cur cs : List Char} (hcur : ∀ d ∈ cur, d ≠ '\r') (hcs : '\r' ∉ cs) :
    linesFrom cur (crlf cs) = linesFrom cur cs := by
  induction cs generalizing cur with
  | nil => rfl
  | cons c cs ih =>
    rw [List.mem_cons, not_or] at hcs
    have hempty : ∀ d ∈ ([] : List Char), d ≠ '\r' := by simp
    rw [linesFrom_cons hcur]
    by_cases hc : c = '\n'
    · subst hc
      rw [crlf_newline, linesFrom_return, if_pos rfl, ih hempty hcs.2]
    · have hcur' : ∀ d ∈ c :: cur, d ≠ '\r' := List.forall_mem_cons.2 ⟨Ne.symm hcs.1, hcur⟩
      rw [crlf_cons hc, linesFrom_cons hcur, if_neg hc, if_neg hc, ih hcur' hcs.2]

/-! ## Texts as pieces between line feeds -/

theorem lines_ofList {cs : List Char} (hm : cs.head? ≠ some byteOrderMark) :
    lines (String.ofList cs) = linesFrom [] cs := by
  unfold lines
  rw [String.toList_ofList]
  cases cs with
  | nil => rfl
  | cons c cs => exact if_neg fun hc => hm (congrArg some hc)

theorem lines_mark (cs : List Char) :
    lines (String.ofList (byteOrderMark :: cs)) = linesFrom [] cs := by
  unfold lines
  rw [String.toList_ofList]
  exact if_pos rfl

/-- The piece behind the last line feed is no line if it is empty, and would be a blank one. -/
theorem collect_endLines {n : Nat} {found : Replacements} {ps : List (List Char)}
    (h : ∀ p ∈ ps, '\r' ∉ p) : collect n found (endLines ps) = collect n found ps := by
  induction ps generalizing n found with
  | nil => rfl
  | cons p ps ih =>
    obtain ⟨hp, hps⟩ := List.forall_mem_cons.1 h
    cases ps with
    | nil =>
      unfold endLines
      split
      · next he => rw [he]; rfl
      · rfl
    | cons q ps =>
      have hw : withoutReturn p = p := if_neg fun hl => hp (List.mem_of_getLast? hl)
      rw [endLines_cons p (List.cons_ne_nil q ps), hw]
      simp only [collect, ih hps]

/-- The line holds no line break. -/
def Unbroken (l : List Char) : Prop := '\r' ∉ l ∧ '\n' ∉ l

instance (l : List Char) : Decidable (Unbroken l) := inferInstanceAs (Decidable (_ ∧ _))

theorem unbroken_of_mem_splitOn {cs l : List Char} (hr : '\r' ∉ cs) (h : l ∈ cs.splitOn '\n') :
    Unbroken l :=
  ⟨fun hc => hr (mem_of_mem_splitOn h hc), not_mem_of_mem_splitOn h⟩

theorem parse_ofList {cs : List Char} (hr : '\r' ∉ cs) (hm : cs.head? ≠ some byteOrderMark) :
    parse (String.ofList cs) = collect 0 .empty (cs.splitOn '\n') := by
  rw [parse, lines_ofList hm, linesFrom_eq_endLines, modifyHead_nil_append,
    collect_endLines fun p hp => (unbroken_of_mem_splitOn hr hp).1]

theorem WellFormed.head?_ne_mark {l : List Char} (h : WellFormed l) :
    l.head? ≠ some byteOrderMark := by
  intro hl
  obtain ⟨rest, rfl⟩ := List.head?_eq_some_iff.1 hl
  cases h with
  | blank h => exact absurd (h byteOrderMark List.mem_cons_self) (by decide)

/-- A text made of pieces that could be lines is parsed piece by piece. -/
theorem parse_intercalate {ps : List (List Char)} (hps : ∀ p ∈ ps, Unbroken p)
    (hw : ∀ p ∈ ps, WellFormed p) :
    parse (String.ofList (['\n'].intercalate ps)) = collect 0 .empty ps := by
  by_cases hne : ps = []
  · subst hne
    rfl
  have hr : '\r' ∉ ['\n'].intercalate ps := by
    rw [mem_intercalate_iff]
    rintro (⟨p, hp, hc⟩ | ⟨hc, -⟩)
    · exact (hps p hp).1 hc
    · exact absurd hc (by decide)
  have hm : (['\n'].intercalate ps).head? ≠ some byteOrderMark := by
    obtain ⟨p, ps, rfl⟩ := List.exists_cons_of_ne_nil hne
    have hp := (hw p List.mem_cons_self).head?_ne_mark
    cases ps with
    | nil => simpa using hp
    | cons q ps =>
      rw [List.intercalate_cons_cons]
      cases p with
      | nil => exact fun h => absurd (Option.some.inj h) (by decide)
      | cons c p => exact hp
  rw [parse_ofList hr hm, List.splitOn_intercalate '\n' (fun p hp => (hps p hp).2) hne]

/-! ## Lines put in, taken out and written in another case -/

/-- A line that gives no text: it is blank, or a reference line. -/
inductive Idle : List Char → Prop
  | blank {l : List Char} (h : ∀ c ∈ l, Text.isBlank c = true) : Idle l
  | reference (text : List Char) : Idle (referenceMarker :: text)

theorem Idle.ofChars_eq {l : List Char} (h : Idle l) : Line.ofChars l = .skipped := by
  cases h with
  | blank h => exact if_pos (List.all_eq_true.2 h)
  | reference text => exact ofChars_reference_cons text

/-- Idle lines may be put in and taken out anywhere, and the digits of an address written in
another case. -/
inductive Noise : List (List Char) → List (List Char) → Prop
  | nil : Noise [] []
  | keep {ls ls' : List (List Char)} (l : List Char) (h : Noise ls ls') : Noise (l :: ls) (l :: ls')
  | insert {ls ls' : List (List Char)} {l : List Char} (hi : Idle l) (hl : Unbroken l)
      (h : Noise ls ls') : Noise ls (l :: ls')
  | delete {ls ls' : List (List Char)} {l : List Char} (hi : Idle l) (h : Noise ls ls') :
      Noise (l :: ls) ls'
  | recase {ls ls' : List (List Char)} {digits digits' : List Char} {address : Nat}
      (text : List Char) (hw : Hex.IsWord digits address)
      (hc : digits'.map Char.toUpper = digits.map Char.toUpper) (h : Noise ls ls') :
      Noise ((editableMarker :: (digits ++ editableMarker :: text)) :: ls)
        ((editableMarker :: (digits' ++ editableMarker :: text)) :: ls')

theorem ofChars_of_isWord {digits : List Char} {address : Nat} (h : Hex.IsWord digits address)
    (text : List Char) :
    Line.ofChars (editableMarker :: (digits ++ editableMarker :: text)) =
      .editable address (String.ofList (unescapeChars text)) :=
  ofChars_eq_editable_iff.2 ⟨text, ⟨digits, h, rfl⟩, rfl⟩

theorem isWord_of_map_toUpper {digits digits' : List Char} {address : Nat}
    (h : Hex.IsWord digits address) (hc : digits'.map Char.toUpper = digits.map Char.toUpper) :
    Hex.IsWord digits' address :=
  ⟨h.1, hc.trans h.2⟩

/-- Idle lines count as lines, but the numbers of lines only show in faults. -/
theorem Noise.collect_eq {ls ls' : List (List Char)} (h : Noise ls ls') {m found : Replacements}
    {n n' : Nat} (hm : collect n found ls = .ok m) : collect n' found ls' = .ok m := by
  induction h generalizing found n n' with
  | nil => exact hm
  | keep l _ ih =>
    unfold collect at hm ⊢
    split
    · next hl => exact ih (by simpa only [hl] using hm)
    · next hl => exact ih (by simpa only [hl] using hm)
    · next hl => simp only [hl] at hm; cases hm
  | insert hi _ _ ih =>
    simp only [collect, hi.ofChars_eq]
    exact ih hm
  | delete hi _ ih =>
    simp only [collect, hi.ofChars_eq] at hm
    exact ih hm
  | recase text hw hc _ ih =>
    simp only [collect, ofChars_of_isWord hw] at hm
    simp only [collect, ofChars_of_isWord (isWord_of_map_toUpper hw hc)]
    exact ih hm

theorem unbroken_of_isWord {digits : List Char} {address : Nat} (h : Hex.IsWord digits address) :
    Unbroken digits := by
  have hup (c : Char) (hc : c ∈ digits) : c.toUpper ≠ '\r' ∧ c.toUpper ≠ '\n' :=
    not_lineBreak_of_mem_padded (h.2 ▸ List.mem_map_of_mem hc)
  exact ⟨fun hc => (hup _ hc).1 rfl, fun hc => (hup _ hc).2 rfl⟩

theorem unbroken_editable_iff {digits text : List Char} {address : Nat}
    (h : Hex.IsWord digits address) :
    Unbroken (editableMarker :: (digits ++ editableMarker :: text)) ↔ Unbroken text := by
  obtain ⟨hr, hn⟩ := unbroken_of_isWord h
  have hmr : '\r' ≠ editableMarker := by decide
  have hmn : '\n' ≠ editableMarker := by decide
  simp [Unbroken, hr, hn, hmr, hmn]

theorem Noise.unbroken {ls ls' : List (List Char)} (h : Noise ls ls')
    (hu : ∀ l ∈ ls, Unbroken l) : ∀ l ∈ ls', Unbroken l := by
  induction h with
  | nil => exact hu
  | keep l _ ih =>
    obtain ⟨hl, hls⟩ := List.forall_mem_cons.1 hu
    exact List.forall_mem_cons.2 ⟨hl, ih hls⟩
  | insert _ hl _ ih => exact List.forall_mem_cons.2 ⟨hl, ih hu⟩
  | delete _ _ ih => exact ih (List.forall_mem_cons.1 hu).2
  | recase text hw hc _ ih =>
    obtain ⟨hl, hls⟩ := List.forall_mem_cons.1 hu
    have hl' := (unbroken_editable_iff (isWord_of_map_toUpper hw hc)).2
      ((unbroken_editable_iff hw).1 hl)
    exact List.forall_mem_cons.2 ⟨hl', ih hls⟩

/-! ## Parsing -/

/-- A text without carriage returns and byte order mark is parsed alike, up to the line of a fault,
when it gets a mark and other line ends. If it is parsed, then to the same map with lines put in
that give no text, with such lines taken out, and with the addresses of others in another case. -/
theorem parse_of_noise {text : String} (hr : '\r' ∉ text.toList)
    (hm : text.toList.head? ≠ some byteOrderMark) :
    parse (String.ofList (byteOrderMark :: crlf text.toList)) = parse text ∧
      ∀ m ls, parse text = .ok m → Noise (text.toList.splitOn '\n') ls →
        parse (String.ofList (['\n'].intercalate ls)) = .ok m := by
  constructor
  · rw [parse, parse, lines_mark, linesFrom_crlf (by simp) hr, ← lines_ofList hm,
      String.ofList_toList]
  · intro m ls hp hn
    rw [← String.ofList_toList (s := text), parse_ofList hr hm] at hp
    have hc : collect 0 .empty ls = .ok m := hn.collect_eq hp
    have hu := hn.unbroken fun l => unbroken_of_mem_splitOn hr
    rw [parse_intercalate hu (collect_ok_iff.1 hc).1]
    exact hc

/-- An address given twice, in both cases of a digit, and a last line without a line end. -/
def sampleClean : String := "◆0000001a◆one\n◇x\n◆0000001A◆two\n\n◆00000002◆b"

/-- A blank line in front, another case in the first address, a reference line behind it for the one
that was there, and a line end for the last line. -/
def sampleNoisy : List (List Char) :=
  [[' ', '\u3000'], "◆0000001A◆one".toList, ['◇'], "◆0000001A◆two".toList, [],
    "◆00000002◆b".toList, []]

theorem noise_sampleNoisy : Noise (sampleClean.toList.splitOn '\n') sampleNoisy := by
  have hs : sampleClean.toList.splitOn '\n' = ["◆0000001a◆one".toList, ['◇', 'x'],
      "◆0000001A◆two".toList, [], "◆00000002◆b".toList] := by cbv
  have hw : Hex.IsWord "0000001a".toList 0x1A := ⟨by decide, by cbv⟩
  have hc : "0000001A".toList.map Char.toUpper = "0000001a".toList.map Char.toUpper := by cbv
  rw [hs]
  have hb : ∀ c ∈ [' ', '\u3000'], Text.isBlank c = true := by simp [Text.isBlank]
  refine .insert (.blank hb) (by decide) ?_
  refine .recase "one".toList hw hc ?_
  refine .delete (.reference ['x']) (.insert (.reference []) (by decide) ?_)
  exact .keep _ (.keep _ (.keep _ (.insert (.blank (by simp)) (by decide) .nil)))

theorem parse_of_noise_sample :
    '\r' ∉ sampleClean.toList ∧ sampleClean.toList.head? ≠ some byteOrderMark ∧
      Noise (sampleClean.toList.splitOn '\n') sampleNoisy ∧
      ∃ m, parse sampleClean = .ok m ∧ m.entries = [(2, "b"), (0x1A, "two")] ∧
        parse (String.ofList (byteOrderMark :: crlf sampleClean.toList)) = .ok m ∧
        parse (String.ofList (['\n'].intercalate sampleNoisy)) = .ok m := by
  have hr : '\r' ∉ sampleClean.toList := by simp [sampleClean]
  have hm : sampleClean.toList.head? ≠ some byteOrderMark := by simp [sampleClean, byteOrderMark]
  have hp : parse sampleClean = .ok ⟨[(2, "b"), (0x1A, "two")], by decide⟩ := by cbv
  obtain ⟨hmarked, hnoise⟩ := parse_of_noise hr hm
  exact ⟨hr, hm, noise_sampleNoisy, _, hp, rfl, hmarked.trans hp,
    hnoise _ _ hp noise_sampleNoisy⟩

end Dialogue.Artifact
