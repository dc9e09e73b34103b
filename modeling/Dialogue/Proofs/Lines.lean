import Dialogue.Artifact

/-!
# Lines of an artifact

A line is well formed if it is blank, a reference line, or an editable line whose address has
eight hexadecimal digits. Every other line is faulty (`ofChars_eq_faulty_iff`), and what is faulty
about it is `faultOf` it. Parsing fails exactly at the first line that is not well formed
(`parse_error_iff`).
-/

namespace Dialogue

namespace Hex

/-- A hexadecimal digit, of either case. -/
def IsDigit (c : Char) : Prop :=
  ('0' ≤ c ∧ c ≤ '9') ∨ ('A' ≤ c ∧ c ≤ 'F') ∨ ('a' ≤ c ∧ c ≤ 'f')

theorem digit?_isSome_iff {c : Char} : (digit? c).isSome = true ↔ IsDigit c := by
  unfold digit? IsDigit
  split
  · next h => simp [h]
  · next h₁ =>
    split
    · next h => simp [h]
    · next h₂ =>
      split
      · next h => simp [h]
      · next h₃ => simp [h₁, h₂, h₃]

theorem value?_isSome_iff (acc : Nat) {cs : List Char} :
    (value? acc cs).isSome = true ↔ ∀ c ∈ cs, IsDigit c := by
  induction cs generalizing acc with
  | nil => simp [value?]
  | cons c cs ih =>
    rw [value?, List.forall_mem_cons, ← digit?_isSome_iff]
    cases digit? c with
    | none => simp
    | some d => simpa using ih _

end Hex

namespace Artifact

/-! ## One line -/

inductive WellFormed : List Char → Prop
  | blank {l : List Char} (h : ∀ c ∈ l, Text.isBlank c = true) : WellFormed l
  | reference (text : List Char) : WellFormed (referenceMarker :: text)
  | editable {digits : List Char} (text : List Char) (hl : digits.length = 8)
      (hd : ∀ d ∈ digits, Hex.IsDigit d) :
      WellFormed (editableMarker :: (digits ++ editableMarker :: text))

/-- What is wrong with a line that is not well formed. -/
def faultOf (l : List Char) : LineFault :=
  if l.head? = some editableMarker then .noAddress else .unmarked

theorem readAddress_eq_some_iff {cs rest : List Char} {address : Nat} :
    readAddress cs = some (address, rest) ↔ ∃ digits,
      (digits.length = 8 ∧ Hex.value? 0 digits = some address) ∧
        cs = digits ++ editableMarker :: rest := by
  unfold readAddress
  constructor
  · intro h
    split at h
    · next a c text hv hd =>
      split at h
      · next hc =>
        cases h
        have hlen : (cs.take 8).length = 8 := by
          have := congrArg List.length hd
          rw [List.length_drop, List.length_cons] at this
          rw [List.length_take]
          omega
        exact ⟨_, ⟨hlen, hv⟩, by rw [← hc, ← hd, List.take_append_drop]⟩
      · cases h
    · cases h
  · rintro ⟨digits, ⟨hl, hv⟩, rfl⟩
    have ht : (digits ++ editableMarker :: rest).take 8 = digits := by
      rw [← hl, List.take_left]
    have hr : (digits ++ editableMarker :: rest).drop 8 = editableMarker :: rest := by
      rw [← hl, List.drop_left]
    rw [ht, hr, hv]
    rfl

theorem readAddress_isSome_iff {cs : List Char} : (readAddress cs).isSome = true ↔
    ∃ digits text, cs = digits ++ editableMarker :: text ∧ digits.length = 8 ∧
      ∀ d ∈ digits, Hex.IsDigit d := by
  constructor
  · intro h
    obtain ⟨⟨address, text⟩, hr⟩ := Option.isSome_iff_exists.1 h
    obtain ⟨digits, ⟨hl, hv⟩, rfl⟩ := readAddress_eq_some_iff.1 hr
    exact ⟨digits, text, rfl, hl, (Hex.value?_isSome_iff 0).1 (by rw [hv]; rfl)⟩
  · rintro ⟨digits, text, rfl, hl, hd⟩
    obtain ⟨address, hv⟩ := Option.isSome_iff_exists.1 ((Hex.value?_isSome_iff 0).2 hd)
    rw [readAddress_eq_some_iff.2 ⟨digits, ⟨hl, hv⟩, rfl⟩]
    rfl

theorem all_isBlank_eq_false {c : Char} (h : Text.isBlank c = false) (l : List Char) :
    (c :: l).all Text.isBlank = false := by
  rw [List.all_cons, h, Bool.false_and]

theorem ofChars_reference_cons (l : List Char) :
    Line.ofChars (referenceMarker :: l) = .skipped := by
  rw [Line.ofChars, all_isBlank_eq_false (by decide)]
  rfl

theorem ofChars_editable_cons (l : List Char) :
    Line.ofChars (editableMarker :: l) =
      match readAddress l with
      | some (address, text) => .editable address (String.ofList (unescapeChars text))
      | none => .faulty .noAddress := by
  rw [Line.ofChars, all_isBlank_eq_false (by decide)]
  rfl

/-- Exactly the lines that are not well formed are faulty. -/
theorem ofChars_eq_faulty_iff {l : List Char} {fault : LineFault} :
    Line.ofChars l = .faulty fault ↔ ¬ WellFormed l ∧ fault = faultOf l := by
  by_cases hb : l.all Text.isBlank = true
  · have hw : WellFormed l := .blank (List.all_eq_true.1 hb)
    simp [Line.ofChars, hb, hw]
  · cases l with
    | nil => exact absurd rfl hb
    | cons c rest =>
      have hnb : ¬ ∀ d ∈ c :: rest, Text.isBlank d = true := fun h => hb (List.all_eq_true.2 h)
      by_cases hr : c = referenceMarker
      · subst hr
        have hw : WellFormed (referenceMarker :: rest) := .reference rest
        simp [ofChars_reference_cons, hw]
      · by_cases he : c = editableMarker
        · subst he
          have hf : faultOf (editableMarker :: rest) = .noAddress := rfl
          have hw : WellFormed (editableMarker :: rest) ↔ (readAddress rest).isSome = true := by
            rw [readAddress_isSome_iff]
            constructor
            · intro h
              cases h with
              | blank h => exact absurd h hnb
              | editable text hl hd => exact ⟨_, text, rfl, hl, hd⟩
            · rintro ⟨digits, text, rfl, hl, hd⟩
              exact .editable text hl hd
          rw [ofChars_editable_cons, hw, hf]
          cases readAddress rest with
          | none => simp [eq_comm]
          | some r => simp
        · have hf : faultOf (c :: rest) = .unmarked := by simp [faultOf, he]
          have hw : ¬ WellFormed (c :: rest) := by
            intro h
            cases h with
            | blank h => exact hnb h
            | reference => exact hr rfl
            | editable => exact he rfl
          rw [Line.ofChars, Bool.not_eq_true] at *
          simp [hb, hr, he, hf, hw, eq_comm]

theorem ofChars_of_not_wellFormed {l : List Char} (h : ¬ WellFormed l) :
    Line.ofChars l = .faulty (faultOf l) := ofChars_eq_faulty_iff.2 ⟨h, rfl⟩

theorem wellFormed_iff {l : List Char} :
    WellFormed l ↔ ∀ fault, Line.ofChars l ≠ .faulty fault := by
  constructor
  · intro h fault hf
    exact (ofChars_eq_faulty_iff.1 hf).1 h
  · intro h
    exact Classical.byContradiction fun hn => h _ (ofChars_of_not_wellFormed hn)

/-! ## All lines -/

/-- The first of some lines that is not well formed, and its number. -/
def FirstFaulty (ls : List (List Char)) (k : Nat) (l : List Char) : Prop :=
  ls[k]? = some l ∧ ¬ WellFormed l ∧ ∀ l' ∈ ls.take k, WellFormed l'

theorem firstFaulty_cons_of_not {l : List Char} (h : ¬ WellFormed l) {ls : List (List Char)}
    {k : Nat} {l' : List Char} : FirstFaulty (l :: ls) k l' ↔ k = 0 ∧ l' = l := by
  constructor
  · rintro ⟨hk, -, hbefore⟩
    cases k with
    | zero => exact ⟨rfl, (Option.some.inj hk).symm⟩
    | succ k => exact absurd (hbefore l List.mem_cons_self) h
  · rintro ⟨rfl, rfl⟩
    exact ⟨rfl, h, fun _ hm => absurd hm List.not_mem_nil⟩

theorem firstFaulty_cons {l : List Char} (h : WellFormed l) {ls : List (List Char)} {k : Nat}
    {l' : List Char} : FirstFaulty (l :: ls) k l' ↔ ∃ j, k = j + 1 ∧ FirstFaulty ls j l' := by
  constructor
  · rintro ⟨hk, hn, hbefore⟩
    cases k with
    | zero => exact absurd (Option.some.inj hk ▸ h) hn
    | succ k => exact ⟨k, rfl, hk, hn, fun x hx => hbefore x (List.mem_cons_of_mem _ hx)⟩
  · rintro ⟨j, rfl, hj, hn, hbefore⟩
    refine ⟨hj, hn, fun x hx => ?_⟩
    rcases List.mem_cons.1 hx with rfl | hx
    · exact h
    · exact hbefore x hx

/-- A list with a line that is not well formed has a first one. -/
theorem exists_firstFaulty_iff {ls : List (List Char)} :
    (∃ k l, FirstFaulty ls k l) ↔ ∃ l ∈ ls, ¬ WellFormed l := by
  constructor
  · rintro ⟨k, l, hk, hn, -⟩
    exact ⟨l, List.mem_of_getElem? hk, hn⟩
  · rintro ⟨l, hm, hn⟩
    induction ls with
    | nil => exact absurd hm List.not_mem_nil
    | cons l' ls ih =>
      by_cases h : WellFormed l'
      · rcases List.mem_cons.1 hm with rfl | hm
        · exact absurd h hn
        · obtain ⟨k, x, hx⟩ := ih hm
          exact ⟨k + 1, x, (firstFaulty_cons h).2 ⟨k, rfl, hx⟩⟩
      · exact ⟨0, l', (firstFaulty_cons_of_not h).2 ⟨rfl, rfl⟩⟩

theorem collect_error_iff {n : Nat} {found : Replacements} {ls : List (List Char)}
    {e : ScriptError} : collect n found ls = .error e ↔
      ∃ k l, FirstFaulty ls k l ∧ e = .format (n + k) (faultOf l) := by
  induction ls generalizing n found with
  | nil => simp [collect, FirstFaulty]
  | cons l ls ih =>
    have step (found' : Replacements) (h : WellFormed l) :
        collect (n + 1) found' ls = .error e ↔
          ∃ k l', FirstFaulty (l :: ls) k l' ∧ e = .format (n + k) (faultOf l') := by
      rw [ih]
      constructor
      · rintro ⟨k, l', hf, rfl⟩
        exact ⟨k + 1, l', (firstFaulty_cons h).2 ⟨k, rfl, hf⟩, by rw [Nat.add_right_comm]; rfl⟩
      · rintro ⟨k, l', hf, rfl⟩
        obtain ⟨j, rfl, hj⟩ := (firstFaulty_cons h).1 hf
        exact ⟨j, l', hj, by rw [Nat.add_right_comm]; rfl⟩
    rw [collect]
    cases hl : Line.ofChars l with
    | skipped => exact step found (wellFormed_iff.2 (by simp [hl]))
    | editable address text => exact step _ (wellFormed_iff.2 (by simp [hl]))
    | faulty fault =>
      obtain ⟨hn, rfl⟩ := ofChars_eq_faulty_iff.1 hl
      constructor
      · intro h
        cases h
        exact ⟨0, l, (firstFaulty_cons_of_not hn).2 ⟨rfl, rfl⟩, rfl⟩
      · rintro ⟨k, l', hf, rfl⟩
        obtain ⟨rfl, rfl⟩ := (firstFaulty_cons_of_not hn).1 hf
        rfl

/-- Parsing fails at the first line that is not well formed, whatever comes after it. -/
theorem parse_error_iff {text : String} {e : ScriptError} : parse text = .error e ↔
    ∃ k l, FirstFaulty (lines text) k l ∧ e = .format k (faultOf l) := by
  rw [parse, collect_error_iff]
  simp only [Nat.zero_add]

end Artifact

end Dialogue
