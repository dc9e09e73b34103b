import Dialogue.Artifact

/-!
# Escaping

Escaping writes a line break as a backslash with a letter, but leaves a backslash alone, so
`\r` and `\n` in a text read back as line breaks (`unescapeChars_escapeChars`). A text
survives exactly if it holds no such pair (`unescapeChars_eq_self_iff`). The other way round,
`escapeChars_unescapeChars`, nothing is lost of a text on one line. Both functions are two
replacements one after the other (`escapeChars_eq_replaceChar`, `unescapeChars_eq_replacePair`).
`escape_loses_pairs` puts this together.
-/

namespace Dialogue.Artifact

/-- A backslash right before `r` or `n` occurs in the text. -/
def HasEscape (cs : List Char) : Prop := ['\\', 'r'] <:+: cs ∨ ['\\', 'n'] <:+: cs

/-- The text begins with a letter that a backslash before it would turn into a line break. -/
def BeginsEscaped (cs : List Char) : Prop := cs.head? = some 'r' ∨ cs.head? = some 'n'

theorem escapeChar_eq_self {c : Char} (hr : c ≠ '\r') (hn : c ≠ '\n') : escapeChar c = [c] := by
  unfold escapeChar
  split
  · exact absurd rfl hr
  · exact absurd rfl hn
  · rfl

theorem escapeChars_cons (c : Char) (cs : List Char) :
    escapeChars (c :: cs) = escapeChar c ++ escapeChars cs := rfl

/-- What is written for a text stays on its line. -/
theorem not_lineBreak_of_mem_escapeChars {c : Char} {cs : List Char} (h : c ∈ escapeChars cs) :
    c ≠ '\r' ∧ c ≠ '\n' := by
  obtain ⟨d, -, hd⟩ := List.mem_flatMap.1 h
  unfold escapeChar at hd
  split at hd
  · simp only [List.mem_cons, List.not_mem_nil, or_false] at hd
    rcases hd with rfl | rfl <;> decide
  · simp only [List.mem_cons, List.not_mem_nil, or_false] at hd
    rcases hd with rfl | rfl <;> decide
  · next hr hn =>
    rw [List.mem_singleton] at hd
    subst hd
    exact ⟨hr, hn⟩

theorem beginsEscaped_escapeChars {cs : List Char} (h : BeginsEscaped (escapeChars cs)) :
    BeginsEscaped cs := by
  cases cs with
  | nil => exact h
  | cons c cs =>
    rw [escapeChars_cons] at h
    unfold escapeChar at h
    split at h
    · simp [BeginsEscaped] at h
    · simp [BeginsEscaped] at h
    · exact h

theorem unescapeChars_cons {c : Char} {cs : List Char} (h : c = '\\' → ¬ BeginsEscaped cs) :
    unescapeChars (c :: cs) = c :: unescapeChars cs := by
  rw [unescapeChars]
  · rintro ds rfl rfl
    exact h rfl (.inl rfl)
  · rintro ds rfl rfl
    exact h rfl (.inr rfl)

/-- The characters before which neither of the first two cases of `unescapeChars` applies. -/
theorem not_beginsEscaped {c : Char} {cs : List Char}
    (hr : ∀ ds, c = '\\' → cs = 'r' :: ds → False)
    (hn : ∀ ds, c = '\\' → cs = 'n' :: ds → False) : c = '\\' → ¬ BeginsEscaped cs := by
  rintro hc (h | h)
  · obtain ⟨ds, hds⟩ := List.head?_eq_some_iff.1 h
    exact hr ds hc hds
  · obtain ⟨ds, hds⟩ := List.head?_eq_some_iff.1 h
    exact hn ds hc hds

/-- Escaping first makes no difference to unescaping: what it writes is undone, and a
backslash is never written into or out of a pair. -/
theorem unescapeChars_escapeChars (cs : List Char) :
    unescapeChars (escapeChars cs) = unescapeChars cs := by
  fun_induction unescapeChars cs with
  | case1 cs ih => exact congrArg ('\r' :: ·) ih
  | case2 cs ih => exact congrArg ('\n' :: ·) ih
  | case3 c cs hr hn ih =>
    by_cases hcr : c = '\r'
    · subst hcr
      exact congrArg ('\r' :: ·) ih
    · by_cases hcn : c = '\n'
      · subst hcn
        exact congrArg ('\n' :: ·) ih
      · rw [escapeChars_cons, escapeChar_eq_self hcr hcn, List.singleton_append,
          unescapeChars_cons, ih]
        intro hc h
        exact not_beginsEscaped hr hn hc (beginsEscaped_escapeChars h)
  | case4 => rfl

/-- Unescaping first makes no difference to escaping: a pair and the line break it stands for
are written alike. -/
theorem escapeChars_unescapeChars (cs : List Char) :
    escapeChars (unescapeChars cs) = escapeChars cs := by
  fun_induction unescapeChars cs with
  | case1 cs ih =>
    show ['\\', 'r'] ++ escapeChars (unescapeChars cs) = ['\\'] ++ (['r'] ++ escapeChars cs)
    rw [ih]
    rfl
  | case2 cs ih =>
    show ['\\', 'n'] ++ escapeChars (unescapeChars cs) = ['\\'] ++ (['n'] ++ escapeChars cs)
    rw [ih]
    rfl
  | case3 c cs _ _ ih => rw [escapeChars_cons, escapeChars_cons, ih]
  | case4 => rfl

/-- Escaping leaves exactly the texts alone that stay on one line. -/
theorem escapeChars_eq_self_iff (cs : List Char) :
    escapeChars cs = cs ↔ ∀ c ∈ cs, c ≠ '\r' ∧ c ≠ '\n' := by
  constructor
  · intro h c hc
    rw [← h] at hc
    exact not_lineBreak_of_mem_escapeChars hc
  · intro h
    induction cs with
    | nil => rfl
    | cons c cs ih =>
      obtain ⟨hc, hcs⟩ := List.forall_mem_cons.1 h
      rw [escapeChars_cons, escapeChar_eq_self hc.1 hc.2, ih hcs, List.singleton_append]

theorem hasEscape_cons {c : Char} {cs : List Char} (h : c = '\\' → ¬ BeginsEscaped cs) :
    HasEscape (c :: cs) ↔ HasEscape cs := by
  have pair (d : Char) (hd : cs.head? = some d → BeginsEscaped cs) :
      ['\\', d] <:+: c :: cs ↔ ['\\', d] <:+: cs := by
    rw [List.infix_cons_iff]
    constructor
    · rintro (hp | hi)
      · rw [List.cons_prefix_cons] at hp
        obtain ⟨rfl, hp⟩ := hp
        obtain ⟨ds, rfl⟩ := hp
        exact absurd (hd rfl) (h rfl)
      · exact hi
    · exact .inr
  rw [HasEscape, HasEscape, pair 'r' .inl, pair 'n' .inr]

theorem unescapeChars_eq_self_iff (cs : List Char) :
    unescapeChars cs = cs ↔ ¬ HasEscape cs := by
  fun_induction unescapeChars cs with
  | case1 cs _ =>
    have h : HasEscape ('\\' :: 'r' :: cs) := .inl ⟨[], cs, rfl⟩
    simp [h]
  | case2 cs _ =>
    have h : HasEscape ('\\' :: 'n' :: cs) := .inr ⟨[], cs, rfl⟩
    simp [h]
  | case3 c cs hr hn ih =>
    rw [hasEscape_cons (not_beginsEscaped hr hn), ← ih, List.cons.injEq, and_iff_right rfl]
  | case4 => simp [HasEscape]

/-! ## Replacing in two passes -/

/-- Replace every `old` by `new`. -/
def replaceChar (old : Char) (new : List Char) (cs : List Char) : List Char :=
  cs.flatMap fun c => if c = old then new else [c]

/-- Escaping replaces the carriage returns and then the line feeds. -/
theorem escapeChars_eq_replaceChar (cs : List Char) :
    escapeChars cs = replaceChar '\n' ['\\', 'n'] (replaceChar '\r' ['\\', 'r'] cs) := by
  induction cs with
  | nil => rfl
  | cons c cs ih =>
    rw [escapeChars_cons, ih]
    unfold escapeChar
    split
    · rfl
    · rfl
    · next hr hn =>
      simp only [imp_false] at hr hn
      simp [replaceChar, hr, hn]

/-- Replace every backslash with `letter` after it by `new`. -/
def replacePair (letter new : Char) : List Char → List Char
  | '\\' :: c :: cs =>
    if c = letter then new :: replacePair letter new cs
    else '\\' :: replacePair letter new (c :: cs)
  | c :: cs => c :: replacePair letter new cs
  | [] => []

theorem replacePair_cons {letter new c : Char} {cs : List Char}
    (h : c = '\\' → cs.head? ≠ some letter) :
    replacePair letter new (c :: cs) = c :: replacePair letter new cs := by
  by_cases hc : c = '\\'
  · subst hc
    cases cs with
    | nil => rfl
    | cons d cs =>
      have hd : d ≠ letter := by simpa using h rfl
      rw [replacePair, if_neg hd]
  · rw [replacePair]
    intro d ds hcs
    exact absurd hcs hc

theorem head?_replacePair {letter new d : Char} (hd : d ≠ new) {cs : List Char}
    (h : (replacePair letter new cs).head? = some d) : cs.head? = some d := by
  unfold replacePair at h
  split at h
  · split at h
    · exact absurd (Option.some.inj h).symm hd
    · exact h
  · exact h
  · exact h

/-- Unescaping replaces the pairs with `r` and then the pairs with `n`. -/
theorem unescapeChars_eq_replacePair (cs : List Char) :
    unescapeChars cs = replacePair 'n' '\n' (replacePair 'r' '\r' cs) := by
  fun_induction unescapeChars cs with
  | case1 cs ih =>
    have hr : replacePair 'r' '\r' ('\\' :: 'r' :: cs) = '\r' :: replacePair 'r' '\r' cs := by
      rw [replacePair, if_pos rfl]
    rw [hr, replacePair_cons (by simp), ih]
  | case2 cs ih =>
    have hr : replacePair 'r' '\r' ('\\' :: 'n' :: cs) =
        '\\' :: 'n' :: replacePair 'r' '\r' cs := by
      rw [replacePair_cons (by simp), replacePair_cons (by simp)]
    rw [hr, replacePair, if_pos rfl, ih]
  | case3 c cs hr hn ih =>
    have h := not_beginsEscaped hr hn
    rw [replacePair_cons fun hc hd => h hc (.inl hd), replacePair_cons, ih]
    intro hc hd
    exact h hc (.inr (head?_replacePair (by decide) hd))
  | case4 => rfl

/-! ## On strings -/

theorem unescape_escape (text : String) : unescape (escape text) = unescape text := by
  rw [unescape, escape, String.toList_ofList, unescapeChars_escapeChars]
  rfl

theorem escape_unescape (text : String) : escape (unescape text) = escape text := by
  rw [escape, unescape, String.toList_ofList, escapeChars_unescapeChars]
  rfl

theorem unescape_eq_self_iff (text : String) : unescape text = text ↔ ¬ HasEscape text.toList := by
  rw [← unescapeChars_eq_self_iff, unescape, ← String.toList_inj, String.toList_ofList]

/-- The text holds no line break. -/
def OneLine (text : String) : Prop := ∀ c ∈ text.toList, c ≠ '\r' ∧ c ≠ '\n'

theorem escape_eq_self_iff (text : String) : escape text = text ↔ OneLine text := by
  rw [OneLine, ← escapeChars_eq_self_iff, escape, ← String.toList_inj, String.toList_ofList]

theorem oneLine_escape (text : String) : OneLine (escape text) := by
  intro c hc
  rw [escape, String.toList_ofList] at hc
  exact not_lineBreak_of_mem_escapeChars hc

/-- What escaping loses. A text on one line is what its meaning is escaped as, so two of them never
mean the same. An escaped text is on one line, and reads back exactly if it held no backslash before
`r` or `n`. -/
theorem escape_loses_pairs :
    (∀ t : String, OneLine t → escape (unescape t) = t) ∧
      (∀ t u : String, OneLine t → OneLine u → unescape t = unescape u → t = u) ∧
      (∀ s : String, OneLine (escape s)) ∧
      ∀ s : String, unescape (escape s) = s ↔ ¬ HasEscape s.toList := by
  have restored (t : String) (ht : OneLine t) : escape (unescape t) = t := by
    rw [escape_unescape, (escape_eq_self_iff t).2 ht]
  refine ⟨restored, ?_, oneLine_escape, ?_⟩
  · intro t u ht hu h
    rw [← restored t ht, h, restored u hu]
  · intro s
    rw [unescape_escape, unescape_eq_self_iff]

/-- Runs of backslashes before both letters, and an `n` behind a pair. -/
theorem escape_loses_pairs_sample :
    OneLine "\\\\n\\\\\\r\\rn" ∧ OneLine "\\n\\\\r\\rn" ∧
      escape (unescape "\\\\n\\\\\\r\\rn") = "\\\\n\\\\\\r\\rn" ∧
      unescape "\\\\n\\\\\\r\\rn" ≠ unescape "\\n\\\\r\\rn" := by
  obtain ⟨restored, same, -, -⟩ := escape_loses_pairs
  have ht : OneLine "\\\\n\\\\\\r\\rn" := by simp [OneLine]
  have hu : OneLine "\\n\\\\r\\rn" := by simp [OneLine]
  refine ⟨ht, hu, restored _ ht, fun h => ?_⟩
  exact absurd (same _ _ ht hu h) (by decide)

end Dialogue.Artifact
