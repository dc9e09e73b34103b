import Dialogue.Path
import Dialogue.Proofs.Pieces
import Dialogue.Proofs.Utf8

/-!
# Paths by their moves

The moves of a path are its parts that lead somewhere else: neither empty parts nor `.` do. Joining
paths joins their moves (`moves_join`), and a path that names a file moves into its parent and then
to that name (`moves_eq_of_fileName`).
-/

namespace Dialogue

namespace Path

/-! ## Slashes in text -/

theorem slash_mem_code_iff {c : Char} : slash ∈ Charset.Utf8.code c ↔ c = '/' := by
  rw [Charset.Utf8.mem_code_iff (by decide), ← Char.toNat_inj]
  rfl

theorem slash_mem_ofText_iff {s : String} : slash ∈ Bytes.ofText s ↔ '/' ∈ s.toList := by
  simp only [Bytes.ofText, List.mem_flatMap, slash_mem_code_iff, exists_eq_right]

theorem withExtension_ne_none {p : Path} {e : Bytes} (h : slash ∉ e) :
    p.withExtension e ≠ none := by
  unfold withExtension
  rw [if_neg h]
  dsimp only
  split <;> simp

/-! ## Moves -/

/-- Neither an empty part nor `.` leads anywhere. -/
def isMove (part : Bytes) : Bool := part ≠ [] && part ≠ [dot]

def moves (p : Path) : List Bytes := p.parts.filter isMove

theorem moves_eq (p : Path) : p.moves = (p.bytes.splitOn slash).filter isMove := by
  unfold moves parts
  split
  · next h =>
    obtain ⟨_, h⟩ := List.head?_eq_some_iff.1 (of_decide_eq_true h)
    rw [h, List.splitOn_cons_eq_if_modifyHead]
    rfl
  · rfl

theorem not_slash_mem_of_mem_parts {p : Path} {part : Bytes} (h : part ∈ p.parts) :
    slash ∉ part := not_mem_of_mem_splitOn h

/-! ## Joining -/

theorem moves_append_slash (front back : Bytes) :
    (Path.mk (front ++ slash :: back)).moves = (Path.mk front).moves ++ (Path.mk back).moves := by
  rw [moves_eq, moves_eq, moves_eq, List.splitOn_append_cons_self, List.filter_append]

theorem moves_join {p q : Path} (hq : q.isAbsolute = false) :
    (p.join q).moves = p.moves ++ q.moves := by
  obtain ⟨front⟩ := p
  unfold join
  rw [hq, if_neg Bool.false_ne_true]
  split
  · next h =>
    rcases Bool.or_eq_true_iff.1 h with h | h
    · have hf : front = [] := List.isEmpty_iff.1 h
      rw [hf]
      rfl
    · obtain ⟨before, hf⟩ := List.getLast?_eq_some_iff.1 (of_decide_eq_true h)
      have hf : front = before ++ [slash] := hf
      rw [hf, moves_append_slash, List.append_assoc, List.singleton_append, moves_append_slash,
        List.append_assoc]
      rfl
  · exact moves_append_slash _ _

theorem isAbsolute_join {p q : Path} (hq : q.isAbsolute = false) :
    (p.join q).isAbsolute = p.isAbsolute := by
  obtain ⟨front⟩ := p
  cases front with
  | nil =>
    unfold join
    rw [hq]
    exact hq
  | cons b front =>
    unfold join
    rw [hq, if_neg Bool.false_ne_true]
    split <;> rfl

/-! ## Paths of parts -/

theorem moves_ofParts {absolute : Bool} {xs : List Bytes} (hx : ∀ x ∈ xs, slash ∉ x) :
    (ofParts absolute xs).moves = xs.filter isMove := by
  have hsplit : ((xs.intersperse [slash]).flatten.splitOn slash).filter isMove =
      xs.filter isMove := by
    cases xs with
    | nil => rfl
    | cons x xs => rw [← List.intercalate, List.splitOn_intercalate _ hx (by simp)]
  cases absolute with
  | false => rw [moves_eq]; exact hsplit
  | true =>
    have h := moves_append_slash [] (xs.intersperse [slash]).flatten
    rw [moves_eq ⟨(xs.intersperse [slash]).flatten⟩, hsplit] at h
    exact h

theorem isAbsolute_ofParts {absolute : Bool} {xs : List Bytes} (hx : ∀ x ∈ xs, slash ∉ x)
    (ho : absolute = false → xs.head? ≠ some []) : (ofParts absolute xs).isAbsolute = absolute := by
  cases absolute with
  | true => rfl
  | false =>
    cases xs with
    | nil => rfl
    | cons x xs =>
      cases x with
      | nil => exact absurd rfl (ho rfl)
      | cons b bs =>
        have hb : b ≠ slash := fun he => hx _ List.mem_cons_self (he ▸ List.mem_cons_self)
        have hhead : (ofParts false ((b :: bs) :: xs)).bytes.head? = some b := by
          cases xs <;> rfl
        unfold isAbsolute
        rw [hhead]
        simpa using hb

/-! ## The last component -/

theorem map_fst_zip_componentsOf (leading : Bool) (parts : List Bytes) :
    (parts.zip (componentsOf leading parts)).map Prod.fst = parts := by
  induction parts generalizing leading with
  | nil => rfl
  | cons part parts ih => rw [componentsOf, List.zip_cons_cons, List.map_cons, ih]

theorem eq_component?_of_mem_zip {leading : Bool} {parts : List Bytes}
    {m : Bytes × Option Component} (h : m ∈ parts.zip (componentsOf leading parts)) :
    ∃ b, m.2 = component? b m.1 := by
  induction parts generalizing leading with
  | nil => exact absurd h List.not_mem_nil
  | cons part parts ih =>
    rw [componentsOf, List.zip_cons_cons] at h
    rcases List.mem_cons.1 h with rfl | h
    · exact ⟨leading, rfl⟩
    · exact ih h

theorem isMove_of_component?_none {b : Bool} {part : Bytes} (h : component? b part = none) :
    isMove part = false := by
  unfold component? at h
  split at h
  · next he => simp_all [isMove]
  · split at h
    · next he => simp [isMove, he]
    · split at h <;> cases h

theorem component?_name {b : Bool} {part n : Bytes} (h : component? b part = some (.name n)) :
    part = n ∧ isMove n = true ∧ n ≠ [dot, dot] := by
  unfold component? at h
  split at h
  · cases h
  · next hne =>
    split at h
    · split at h <;> cases h
    · next hh =>
      split at h
      · cases h
      · next hu =>
        cases h
        exact ⟨rfl, by simp_all [isMove], hu⟩

/-- Behind its last component a path does not move. -/
theorem splitLast_cases (p : Path) :
    (p.splitLast = none ∧ p.moves = []) ∨
      ∃ init part trail b c, p.splitLast = some (init ++ [part], c) ∧
        p.parts = init ++ part :: trail ∧ component? b part = some c ∧
        ∀ x ∈ trail, isMove x = false := by
  unfold splitLast moves
  dsimp only
  have hfst := map_fst_zip_componentsOf (!p.isAbsolute) p.parts
  have hmem (m) (hm : m ∈ p.parts.zip (componentsOf (!p.isAbsolute) p.parts)) :
      ∃ b, m.2 = component? b m.1 := eq_component?_of_mem_zip hm
  generalize p.parts.zip (componentsOf (!p.isAbsolute) p.parts) = marked at hfst hmem
  have hrev := List.takeWhile_append_dropWhile (p := (·.2.isNone)) (l := marked.reverse)
  have hnone := List.all_takeWhile (p := (·.2.isNone)) (l := marked.reverse)
  have hhead := List.head?_dropWhile_not (·.2.isNone) marked.reverse
  generalize marked.reverse.takeWhile (·.2.isNone) = after at hrev hnone
  generalize marked.reverse.dropWhile (·.2.isNone) = back at hrev hhead ⊢
  -- `after` are the parts behind the last component, last first.
  have hmarked : marked = (after ++ back).reverse := by rw [hrev, List.reverse_reverse]
  have hafter : ∀ m ∈ after, isMove m.1 = false := by
    intro m hm
    obtain ⟨b, hb⟩ := hmem m (by simp [hmarked, hm])
    have hn := List.all_eq_true.1 hnone m hm
    rw [Option.isNone_iff_eq_none] at hn
    exact isMove_of_component?_none (hb.symm.trans hn)
  rw [← hfst]
  subst hmarked
  match back, hhead with
  | [], _ =>
    refine .inl ⟨rfl, ?_⟩
    rw [List.filter_eq_nil_iff]
    intro x hx
    obtain ⟨m, hm, rfl⟩ := List.mem_map.1 hx
    rw [hafter m (by simpa using hm)]
    exact Bool.false_ne_true
  | (part, none) :: before, hhead => exact absurd hhead (by simp)
  | (part, some c) :: before, _ =>
    obtain ⟨b, hb⟩ := hmem (part, some c) (by simp)
    refine .inr ⟨(before.map Prod.fst).reverse, part, (after.map Prod.fst).reverse, b, c,
      by simp, by simp, hb.symm, fun x hx => ?_⟩
    obtain ⟨m, hm, rfl⟩ := List.mem_map.1 (List.mem_reverse.1 hx)
    exact hafter m hm

/-! ## Names and parents -/

theorem ne_nil_of_component? {b : Bool} {part : Bytes} {c : Component}
    (h : component? b part = some c) : part ≠ [] := by
  rintro rfl
  cases h

/-- The first part of a relative path that has a component is not empty. -/
theorem head?_ne_of_prefix {p : Path} (hp : p.isAbsolute = false) {init trail xs : List Bytes}
    {part : Bytes} (h : p.parts = init ++ part :: trail) (hpart : part ≠ [])
    (hxs : xs <+: init ++ [part]) : xs.head? ≠ some [] := by
  intro hhead
  have hfirst : p.parts.head? = some [] := by
    obtain ⟨ys, hys⟩ := hxs
    rw [h, List.append_cons, ← hys, List.append_assoc, List.head?_append, hhead]
    rfl
  unfold parts at h hfirst
  rw [hp, if_neg Bool.false_ne_true] at h hfirst
  cases hb : p.bytes with
  | nil =>
    rw [hb, List.splitOn_nil] at h
    cases init with
    | nil =>
      cases h
      exact hpart rfl
    | cons x init => simp at h
  | cons b bs =>
    have hne : b ≠ slash := by
      simpa [isAbsolute, hb] using hp
    rw [hb, List.splitOn_cons_eq_if_modifyHead, if_neg (by simpa using hne)] at hfirst
    cases hs : bs.splitOn slash with
    | nil => exact List.splitOn_ne_nil _ _ hs
    | cons x xs =>
      rw [hs] at hfirst
      cases hfirst

theorem moves_of_parts {p : Path} {init trail : List Bytes} {part : Bytes}
    (hp : p.parts = init ++ part :: trail) (ht : ∀ x ∈ trail, isMove x = false) :
    p.moves = (init ++ [part]).filter isMove := by
  have htrail : trail.filter isMove = [] :=
    List.filter_eq_nil_iff.2 fun x hx => by simp [ht x hx]
  rw [moves, hp, List.append_cons, List.filter_append, htrail, List.append_nil]

/-- The parent moves as the parts before the last component do. -/
theorem parent_of_splitLast {p : Path} {init trail : List Bytes} {part : Bytes} {b : Bool}
    {c : Component} (hs : p.splitLast = some (init ++ [part], c))
    (hp : p.parts = init ++ part :: trail) (hc : component? b part = some c) :
    ∃ q, p.parent = some q ∧ q.isAbsolute = p.isAbsolute ∧ q.moves = init.filter isMove := by
  have hslash : ∀ x ∈ init, slash ∉ x :=
    fun x hx => not_slash_mem_of_mem_parts (p := p) (by simp [hp, hx])
  have hopens : p.isAbsolute = false → init.head? ≠ some [] := fun ha =>
    head?_ne_of_prefix ha hp (ne_nil_of_component? hc) (List.prefix_append init [part])
  have habs := isAbsolute_ofParts hslash hopens
  have hmoves : (ofParts p.isAbsolute init).moves = init.filter isMove := moves_ofParts hslash
  unfold parent
  rw [hs]
  dsimp only
  rw [List.dropLast_concat]
  obtain ⟨hs', hnil⟩ | ⟨init', part', trail', b', c', hs', hp', hc', htrail'⟩ :=
    splitLast_cases (ofParts p.isAbsolute init)
  · rw [hs']
    refine ⟨_, rfl, isAbsolute_ofParts (by simp) (by simp), ?_⟩
    rw [← hmoves, hnil]
    exact moves_ofParts (by simp)
  · rw [hs']
    have hkept : ∀ x ∈ init' ++ [part'], slash ∉ x := by
      intro x hx
      apply not_slash_mem_of_mem_parts (p := ofParts p.isAbsolute init)
      rw [hp', List.append_cons]
      exact List.mem_append_left _ hx
    refine ⟨_, rfl, isAbsolute_ofParts hkept fun ha => ?_, ?_⟩
    · exact head?_ne_of_prefix (habs.trans ha) hp' (ne_nil_of_component? hc') (List.prefix_refl _)
    · rw [moves_ofParts hkept, ← hmoves, moves_of_parts hp' htrail']

theorem isAbsolute_eq_false {n : Bytes} (h : slash ∉ n) : (Path.mk n).isAbsolute = false := by
  rw [isAbsolute, decide_eq_false_iff_not]
  exact fun hh => h (List.mem_of_head? hh)

theorem moves_eq_singleton {n : Bytes} (h : slash ∉ n) (hm : isMove n) :
    (Path.mk n).moves = [n] := by
  rw [moves_eq, List.splitOn_eq_singleton h, List.filter_cons_of_pos hm, List.filter_nil]

/-- A path that names a file moves into its parent and then to the name. -/
theorem exists_parent_of_fileName {p : Path} {n : Bytes} (h : p.fileName = some n) :
    ∃ q, p.parent = some q ∧ q.isAbsolute = p.isAbsolute ∧ p.moves = q.moves ++ [n] ∧
      isMove n ∧ n ≠ [dot, dot] ∧ slash ∉ n := by
  obtain ⟨hs, -⟩ | ⟨init, part, trail, b, c, hs, hp, hc, htrail⟩ := splitLast_cases p
  · rw [fileName, hs] at h
    cases h
  · have hn : c = .name n := by
      unfold fileName at h
      rw [hs] at h
      cases c with
      | name n' => rw [Option.some.inj h]
      | root => cases h
      | here => cases h
      | up => cases h
    subst hn
    obtain ⟨rfl, hmove, hup⟩ := component?_name hc
    obtain ⟨q, hq, habs, hmoves⟩ := parent_of_splitLast hs hp hc
    refine ⟨q, hq, habs, ?_, hmove, hup, not_slash_mem_of_mem_parts (p := p) (by simp [hp])⟩
    rw [hmoves, moves_of_parts hp htrail, List.filter_append, List.filter_cons_of_pos hmove,
      List.filter_nil]

end Path

end Dialogue
