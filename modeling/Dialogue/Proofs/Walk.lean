import Dialogue.Proofs.Extension
import Dialogue.Proofs.FileSystem

/-!
# Walks along moves

Only the moves of a path matter to where it leads: a path leads to a directory exactly if nothing is
wrong with it and its moves walk there (`resolve_dir_iff`). Every part of a walk to a directory
leads to a directory (`isDir_of_walk`).
-/

namespace Dialogue

namespace FileSystem

variable {fs : FileSystem} {p q : Path} {l l' : Location} {ns : List Name}

/-! ## Steps and moves -/

theorem steps_append {front : Bytes} (hf : Path.IsFront front) : ∃ absolute init, ∀ n : Bytes,
    Path.slash ∉ n → n ≠ [] → (Path.mk (front ++ n)).isAbsolute = absolute ∧
      steps (Path.mk (front ++ n)) = init ++ [n] := by
  obtain ⟨absolute, init, h⟩ := Path.exists_parts_append hf
  refine ⟨absolute, init.filter (!·.isEmpty), fun n hn hne => ⟨(h n hn).1, ?_⟩⟩
  unfold steps
  rw [(h n hn).2, List.filter_append, List.filter_cons_of_pos (by simpa using hne),
    List.filter_nil]

theorem moves_eq_filter_steps (p : Path) : p.moves = (steps p).filter (· ≠ here) := by
  unfold Path.moves steps
  rw [List.filter_filter]
  refine List.filter_congr fun part _ => ?_
  cases part with
  | nil => rfl
  | cons b bs => simp [Path.isMove, here]

/-- Steps that stay where they are can be left out of a walk. -/
theorem walk_filter {ns : List Name} (h : fs.walk l ns = .ok l') :
    fs.walk l (ns.filter (· ≠ here)) = .ok l' := by
  induction ns generalizing l with
  | nil => exact h
  | cons n ns ih =>
    obtain ⟨m, hm, hr⟩ := walk_cons_ok_iff.1 h
    by_cases hn : n = here
    · rw [List.filter_cons_of_neg (by simpa using hn)]
      cases hm with
      | here _ => exact ih hr
      | up _ => exact absurd hn (by decide)
      | down _ hh _ _ _ => exact absurd hn hh
    · rw [List.filter_cons_of_pos (by simpa using hn)]
      exact walk_cons_ok_iff.2 ⟨m, hm, ih hr⟩

theorem walk_moves (h : fs.fileAt? p = some l) : fs.walk (fs.start p) p.moves = .ok l := by
  obtain ⟨c, hc⟩ := fileAt?_eq_some_iff.1 h
  rw [moves_eq_filter_steps]
  exact walk_filter (resolve_file_iff.1 hc).2.2.1

theorem eq_append_of_walk {ns : List Name} (hn : ∀ n ∈ ns, n ≠ here ∧ n ≠ up)
    (h : fs.walk l ns = .ok l') : l' = l ++ ns := by
  induction ns generalizing l with
  | nil =>
    cases h
    exact (List.append_nil _).symm
  | cons n ns ih =>
    obtain ⟨m, hm, hr⟩ := walk_cons_ok_iff.1 h
    have hne := hn n List.mem_cons_self
    cases hm with
    | here _ => exact absurd rfl hne.1
    | up _ => exact absurd rfl hne.2
    | down _ _ _ _ _ =>
      rw [ih (fun x hx => hn x (List.mem_cons_of_mem _ hx)) hr, List.append_assoc,
        List.singleton_append]

theorem ne_here_of_mem_moves {n : Name} (h : n ∈ p.moves) : n ≠ here := by
  have := (List.mem_filter.1 h).2
  simp_all [Path.isMove, here]

/-! ## Directories -/

theorem fault?_eq_none_iff :
    fault? p = none ↔ 0 ∉ p.bytes ∧ p.bytes ≠ [] ∧ p.bytes.length ≤ maxPath := by
  unfold fault?
  constructor
  · intro h
    split at h
    · cases h
    · next hzero =>
      split at h
      · cases h
      · next hempty =>
        split at h
        · cases h
        · next hlen => exact ⟨hzero, by simpa using hempty, Nat.not_lt.1 hlen⟩
  · rintro ⟨hzero, hempty, hlen⟩
    rw [if_neg hzero, if_neg (by simpa using hempty), if_neg (Nat.not_lt.2 hlen)]

theorem Moves.isDir {n : Name} (h : fs.Moves l n l') : fs.node? l = some .dir := by
  cases h with
  | here hd => exact hd
  | up hd => exact hd
  | down hd _ _ _ _ => exact hd

theorem isDir_of_walk (h : fs.walk l ns = .ok l') (hd : fs.node? l' = some .dir) :
    fs.node? l = some .dir := by
  cases ns with
  | nil =>
    cases h
    exact hd
  | cons n ns =>
    obtain ⟨m, hm, -⟩ := walk_cons_ok_iff.1 h
    exact hm.isDir

theorem walk_of_walk_filter (h : fs.walk l (ns.filter (· ≠ here)) = .ok l')
    (hd : fs.node? l' = some .dir) : fs.walk l ns = .ok l' := by
  induction ns generalizing l with
  | nil => exact h
  | cons n ns ih =>
    have hl := isDir_of_walk h hd
    by_cases hn : n = here
    · subst hn
      rw [List.filter_cons_of_neg (by simp)] at h
      exact walk_cons_ok_iff.2 ⟨l, .here hl, ih h⟩
    · rw [List.filter_cons_of_pos (by simpa using hn)] at h
      obtain ⟨m, hm, hr⟩ := walk_cons_ok_iff.1 h
      exact walk_cons_ok_iff.2 ⟨m, hm, ih hr⟩

theorem resolve_dir_iff : fs.resolve p = .ok (l, .dir) ↔
    fault? p = none ∧ fs.walk (fs.start p) p.moves = .ok l ∧ fs.node? l = some .dir := by
  rw [moves_eq_filter_steps]
  unfold resolve
  constructor
  · intro h
    split at h
    · cases h
    · next hf =>
      split at h
      · cases h
      · next hw =>
        split at h
        · cases h
        · split at h <;> cases h
        · next hn =>
          cases h
          exact ⟨hf, walk_filter hw, hn⟩
  · rintro ⟨hf, hw, hn⟩
    simp [hf, walk_of_walk_filter hw hn, hn]

theorem walk_of_resolve {n : Node} (h : fs.resolve p = .ok (l, n)) :
    fs.walk (fs.start p) p.moves = .ok l ∧ fs.node? l = some n := by
  cases n with
  | dir =>
    obtain ⟨-, hw, hn⟩ := resolve_dir_iff.1 h
    exact ⟨hw, hn⟩
  | file c => exact ⟨walk_moves (fileAt?_eq_some_iff.2 ⟨c, h⟩), (resolve_file_iff.1 h).2.2.2⟩

theorem kind?_dir_iff : fs.kind? p = some .dir ↔ ∃ l, fs.resolve p = .ok (l, .dir) := by
  unfold kind?
  constructor
  · intro h
    split at h
    · cases h
    · next l hr => exact ⟨l, hr⟩
    · cases h
  · rintro ⟨l, h⟩
    rw [h]

theorem kind?_file_iff : fs.kind? p = some .file ↔ ∃ l, fs.fileAt? p = some l := by
  unfold kind? fileAt?
  constructor
  · intro h
    split at h
    · next l c hr => exact ⟨l, by rw [hr]⟩
    · cases h
    · cases h
  · rintro ⟨l, h⟩
    split at h
    · next hr => rw [hr]
    · cases h

end FileSystem

end Dialogue
