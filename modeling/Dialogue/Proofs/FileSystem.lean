import Dialogue.Files.System

/-!
# What operations do to a file system

`fs.Extends ls fs'`: all that happened between `fs` and `fs'` is that files were written at the
locations `ls` and directories made where nothing was. Writing a file extends a file system at the
location that the path leads to (`exists_extends_of_write`), making a directory extends it nowhere
(`Extends.of_makeDir`). A path that leads to a file leads to the same location afterwards
(`Extends.fileAt?_eq`), so a file is lost only by a write that leads to its location.
`fs.WritesOnly Q fs'` says so by paths (`WritesOnly.read_eq`).
-/

namespace Dialogue

namespace FileSystem

/-! ## Nodes -/

theorem lookup_putEntry (l l' : Location) (n : Node) (es : List (Location × Node)) :
    (putEntry l n es).lookup l' = if l' = l then some n else es.lookup l' := by
  induction es with
  | nil =>
    by_cases h : l' = l
    · simp [putEntry, h]
    · simp [putEntry, h]
  | cons e es ih =>
    obtain ⟨k, m⟩ := e
    simp only [putEntry]
    split
    · next h =>
      subst h
      by_cases h' : l' = l
      · simp [h']
      · simp [List.lookup_cons, h', beq_false_of_ne h']
    · next hne =>
      split
      · by_cases h' : l' = l
        · simp [h']
        · simp [List.lookup_cons, h', beq_false_of_ne h']
      · by_cases h' : l' = k
        · subst h'
          simp [Ne.symm hne]
        · simp [List.lookup_cons, beq_false_of_ne h', ih]

theorem node?_put {fs : FileSystem} {l : Location} {n : Node} (hl : l ≠ []) (l' : Location) :
    (fs.put l n).node? l' = if l' = l then some n else fs.node? l' := by
  unfold node?
  by_cases h : l' = []
  · subst h
    rw [if_neg hl.symm]
    rfl
  · simp [h, put, lookup_putEntry]

/-! ## Extensions -/

/-- Files were written at some locations, and directories may have been made. -/
structure Extends (ls : List Location) (fs fs' : FileSystem) : Prop where
  workDir : fs'.workDir = fs.workDir
  written : ∀ l ∈ ls, fs.node? l ≠ some .dir ∧ ∃ c, fs'.node? l = some (.file c)
  kept : ∀ l : Location, l ∉ ls →
    fs'.node? l = fs.node? l ∨ (fs.node? l = none ∧ fs'.node? l = some .dir)

theorem Extends.refl (fs : FileSystem) : Extends [] fs fs where
  workDir := rfl
  written _ h := absurd h List.not_mem_nil
  kept _ _ := .inl rfl

section
variable {ls ls' : List Location} {fs fs' fs'' : FileSystem} {l : Location} {c : Bytes}

theorem Extends.dir (h : Extends ls fs fs') (hl : fs.node? l = some .dir) :
    fs'.node? l = some .dir := by
  by_cases hm : l ∈ ls
  · exact absurd hl (h.written l hm).1
  · rcases h.kept l hm with he | ⟨hn, -⟩
    · rw [he, hl]
    · rw [hl] at hn
      cases hn

theorem Extends.file (h : Extends ls fs fs') (hl : fs.node? l = some (.file c)) :
    ∃ c', fs'.node? l = some (.file c') ∧ (l ∉ ls → c' = c) := by
  by_cases hm : l ∈ ls
  · obtain ⟨c', hc'⟩ := (h.written l hm).2
    exact ⟨c', hc', fun hn => absurd hm hn⟩
  · rcases h.kept l hm with he | ⟨hn, -⟩
    · exact ⟨c, he.trans hl, fun _ => rfl⟩
    · rw [hl] at hn
      cases hn

/-- Where nothing was written, a file is there exactly if it was. -/
theorem Extends.file_iff (h : Extends ls fs fs') (hl : l ∉ ls) :
    fs'.node? l = some (.file c) ↔ fs.node? l = some (.file c) := by
  rcases h.kept l hl with he | ⟨hn, hd⟩
  · rw [he]
  · simp [hn, hd]

/-- A directory made by the first step is none that the second writes to. -/
theorem Extends.trans (h : Extends ls fs fs') (h' : Extends ls' fs' fs'') :
    Extends (ls ++ ls') fs fs'' where
  workDir := h'.workDir.trans h.workDir
  written l hl := by
    constructor
    · intro hd
      rcases List.mem_append.1 hl with hm | hm
      · exact (h.written l hm).1 hd
      · exact (h'.written l hm).1 (h.dir hd)
    · rcases List.mem_append.1 hl with hm | hm
      · obtain ⟨c, hc⟩ := (h.written l hm).2
        obtain ⟨c', hc', -⟩ := h'.file hc
        exact ⟨c', hc'⟩
      · exact (h'.written l hm).2
  kept l hl := by
    rw [List.mem_append, not_or] at hl
    rcases h.kept l hl.1 with he | ⟨hn, hd⟩
    · rw [← he]
      exact h'.kept l hl.2
    · exact .inr ⟨hn, h'.dir hd⟩

/-- A file can be put where no directory is. -/
theorem Extends.put_file (hl : l ≠ []) (h : fs.node? l ≠ some .dir) :
    Extends [l] fs (fs.put l (.file c)) where
  workDir := rfl
  written l' hl' := by
    rw [List.mem_singleton.1 hl']
    exact ⟨h, c, by rw [node?_put hl, if_pos rfl]⟩
  kept l' hl' := by
    rw [List.mem_singleton] at hl'
    rw [node?_put hl, if_neg hl']
    exact .inl rfl

theorem Extends.put_dir (hl : l ≠ []) (h : fs.node? l = none) : Extends [] fs (fs.put l .dir) where
  workDir := rfl
  written _ h := absurd h List.not_mem_nil
  kept l' _ := by
    rw [node?_put hl]
    by_cases he : l' = l
    · rw [if_pos he, he]
      exact .inr ⟨h, rfl⟩
    · rw [if_neg he]
      exact .inl rfl

end

/-! ## Walks -/

/-- One step of a walk. -/
inductive Moves (fs : FileSystem) : Location → Name → Location → Prop
  | here {l : Location} (hd : fs.node? l = some .dir) : Moves fs l here l
  | up {l : Location} (hd : fs.node? l = some .dir) : Moves fs l up l.dropLast
  | down {l : Location} {name : Name} {n : Node} (hd : fs.node? l = some .dir)
      (hh : name ≠ here) (hu : name ≠ up) (hm : name.length ≤ maxName)
      (hn : fs.node? (l ++ [name]) = some n) : Moves fs l name (l ++ [name])

section
variable {ls : List Location} {fs fs' : FileSystem} {l l' : Location}

theorem walk_cons_ok_iff {step : Name} {rest : List Name} :
    fs.walk l (step :: rest) = .ok l' ↔ ∃ m, fs.Moves l step m ∧ fs.walk m rest = .ok l' := by
  rw [walk]
  constructor
  · intro h
    split at h
    · cases h
    · next hd =>
      have hd := Decidable.not_not.1 hd
      split at h
      · next he => exact ⟨l, he ▸ .here hd, h⟩
      · next hh =>
        split at h
        · next he => exact ⟨l.dropLast, he ▸ .up hd, h⟩
        · next hu =>
          split at h
          · cases h
          · next hm =>
            split at h
            · cases h
            · next n hn => exact ⟨_, .down hd hh hu (Nat.not_lt.1 hm) hn, h⟩
  · rintro ⟨m, hm, h⟩
    cases hm with
    | here hd => simpa [hd] using h
    | up hd => simpa [hd, here, up] using h
    | down hd hh hu hm hn => simpa [hd, hh, hu, Nat.not_lt.2 hm, hn] using h

theorem walk_append_ok_iff {xs ys : List Name} :
    fs.walk l (xs ++ ys) = .ok l' ↔ ∃ m, fs.walk l xs = .ok m ∧ fs.walk m ys = .ok l' := by
  induction xs generalizing l with
  | nil => simp [walk]
  | cons x xs ih =>
    simp only [List.cons_append, walk_cons_ok_iff, ih]
    constructor
    · rintro ⟨m, hm, m', hx, hy⟩
      exact ⟨m', ⟨m, hm, hx⟩, hy⟩
    · rintro ⟨m', ⟨m, hm, hx⟩, hy⟩
      exact ⟨m, hm, m', hx, hy⟩

theorem Extends.node_isSome (h : Extends ls fs fs') {n : Node} (hn : fs.node? l = some n) :
    ∃ n', fs'.node? l = some n' := by
  cases n with
  | dir => exact ⟨_, h.dir hn⟩
  | file c =>
    obtain ⟨c', hc', -⟩ := h.file hn
    exact ⟨_, hc'⟩

theorem Extends.moves (h : Extends ls fs fs') {step : Name} (hm : fs.Moves l step l') :
    fs'.Moves l step l' := by
  cases hm with
  | here hd => exact .here (h.dir hd)
  | up hd => exact .up (h.dir hd)
  | down hd hh hu hm hn =>
    obtain ⟨n', hn'⟩ := h.node_isSome hn
    exact .down (h.dir hd) hh hu hm hn'

theorem Extends.walk_ok (h : Extends ls fs fs') {steps : List Name}
    (hw : fs.walk l steps = .ok l') : fs'.walk l steps = .ok l' := by
  induction steps generalizing l with
  | nil => exact hw
  | cons step rest ih =>
    obtain ⟨m, hm, hr⟩ := walk_cons_ok_iff.1 hw
    exact walk_cons_ok_iff.2 ⟨m, h.moves hm, ih hr⟩

end

/-! ## Files -/

/-- The text in a file, which must be UTF-8. -/
def readText (fs : FileSystem) (p : Path) : Except FileError String :=
  match fs.read p with
  | .error e => .error e
  | .ok bytes =>
    match bytes.toText? with
    | some text => .ok text
    | none => .error .notText

/-- The location of the file that a path leads to. -/
def fileAt? (fs : FileSystem) (p : Path) : Option Location :=
  match fs.resolve p with
  | .ok (l, .file _) => some l
  | _ => none

section
variable {ls : List Location} {fs fs' : FileSystem} {p : Path} {l : Location} {c : Bytes}

theorem resolve_file_iff : fs.resolve p = .ok (l, .file c) ↔
    fault? p = none ∧ wantsDir p = false ∧ fs.walk (fs.start p) (steps p) = .ok l ∧
      fs.node? l = some (.file c) := by
  unfold resolve
  constructor
  · intro h
    split at h
    · cases h
    · next hf =>
      split at h
      · cases h
      · next hw =>
        split at h
        · cases h
        · next hn =>
          split at h
          · cases h
          · next hd =>
            cases h
            exact ⟨hf, by simpa using hd, hw, hn⟩
        · cases h
  · rintro ⟨hf, hd, hw, hn⟩
    simp [hf, hd, hw, hn]

theorem fileAt?_eq_some_iff : fs.fileAt? p = some l ↔ ∃ c, fs.resolve p = .ok (l, .file c) := by
  unfold fileAt?
  constructor
  · intro h
    split at h
    · next hr =>
      cases h
      exact ⟨_, hr⟩
    · cases h
  · rintro ⟨c, h⟩
    rw [h]

theorem read_ok_iff : fs.read p = .ok c ↔
    ∃ l, fs.fileAt? p = some l ∧ fs.node? l = some (.file c) := by
  unfold read
  constructor
  · intro h
    split at h
    · next hr =>
      cases h
      exact ⟨_, fileAt?_eq_some_iff.2 ⟨_, hr⟩, (resolve_file_iff.1 hr).2.2.2⟩
    · cases h
    · cases h
  · rintro ⟨l, hl, hn⟩
    obtain ⟨c', hr⟩ := fileAt?_eq_some_iff.1 hl
    have hn' := (resolve_file_iff.1 hr).2.2.2
    rw [hn] at hn'
    cases hn'
    rw [hr]

theorem exists_read_of_kind? (h : fs.kind? p = some .file) : ∃ c, fs.read p = .ok c := by
  unfold kind? at h
  unfold read
  split at h
  · next c hr => exact ⟨c, rfl⟩
  · cases h
  · cases h

theorem Extends.start_eq (h : Extends ls fs fs') (p : Path) : fs'.start p = fs.start p := by
  simp only [start, h.workDir]

theorem Extends.fileAt?_eq (h : Extends ls fs fs') (hl : fs.fileAt? p = some l) :
    fs'.fileAt? p = some l := by
  obtain ⟨c, hr⟩ := fileAt?_eq_some_iff.1 hl
  obtain ⟨hf, hd, hw, hn⟩ := resolve_file_iff.1 hr
  obtain ⟨c', hc', -⟩ := h.file hn
  have hw' := h.start_eq p ▸ h.walk_ok hw
  exact fileAt?_eq_some_iff.2 ⟨c', resolve_file_iff.2 ⟨hf, hd, hw', hc'⟩⟩

/-- A file that nothing was written to holds what it held. -/
theorem Extends.read_eq (h : Extends ls fs fs') (hr : fs.read p = .ok c)
    (hl : ∀ l ∈ ls, fs'.fileAt? p ≠ some l) : fs'.read p = .ok c := by
  obtain ⟨l, ha, hn⟩ := read_ok_iff.1 hr
  have ha' := h.fileAt?_eq ha
  obtain ⟨c', hc', he⟩ := h.file hn
  rw [he fun hm => hl l hm ha'] at hc'
  exact read_ok_iff.2 ⟨l, ha', hc'⟩

/-! ## Operations -/

theorem place_ok_iff {name : Name} : fs.place p = .ok (l, some name) ↔
    fault? p = none ∧ (∃ init, steps p = init ++ [name] ∧ fs.walk (fs.start p) init = .ok l) ∧
      fs.node? l = some .dir ∧ name ≠ here ∧ name ≠ up ∧ name.length ≤ maxName := by
  unfold place
  constructor
  · intro h
    split at h
    · cases h
    · next hf =>
      split at h
      · cases h
      · next hw =>
        split at h
        · cases h
        · next hd =>
          split at h
          · cases h
          · next last hlast =>
            split at h
            · cases h
            · next hhu =>
              split at h
              · cases h
              · next hm =>
                cases h
                rw [not_or] at hhu
                obtain ⟨init, hs⟩ := List.getLast?_eq_some_iff.1 hlast
                rw [hs, List.dropLast_concat] at hw
                exact ⟨hf, ⟨init, hs, hw⟩, Decidable.not_not.1 hd, hhu.1, hhu.2,
                  Nat.not_lt.1 hm⟩
  · rintro ⟨hf, ⟨init, hs, hw⟩, hd, hh, hu, hm⟩
    simp [hf, hs, hw, hd, hh, hu, Nat.not_lt.2 hm]

/-- What was put where a path places something is where the path leads. -/
theorem Extends.walk_place {name : Name} {n : Node} (h : Extends ls fs fs')
    (hp : fs.place p = .ok (l, some name)) (hn : fs'.node? (l ++ [name]) = some n) :
    fs'.walk (fs'.start p) (steps p) = .ok (l ++ [name]) := by
  obtain ⟨-, ⟨init, hs, hw⟩, hd, hh, hu, hm⟩ := place_ok_iff.1 hp
  rw [hs, h.start_eq, walk_append_ok_iff]
  exact ⟨l, h.walk_ok hw, walk_cons_ok_iff.2 ⟨_, .down (h.dir hd) hh hu hm hn, rfl⟩⟩

/-- A file that was written is where the path leads. -/
theorem exists_extends_of_write (h : fs.write p c = .ok fs') :
    ∃ l, Extends [l] fs fs' ∧ fs'.fileAt? p = some l ∧ fs'.read p = .ok c := by
  unfold write at h
  split at h
  · cases h
  · cases h
  · next d name hp =>
    split at h
    · cases h
    · next hno =>
      cases h
      rw [not_or] at hno
      obtain ⟨hwd, hdir⟩ := hno
      have hne : d ++ [name] ≠ [] := by simp
      have hext := Extends.put_file (c := c) hne hdir
      have hn : (fs.put (d ++ [name]) (.file c)).node? (d ++ [name]) = some (.file c) := by
        rw [node?_put hne, if_pos rfl]
      have hf := (place_ok_iff.1 hp).1
      have ha : (fs.put (d ++ [name]) (.file c)).fileAt? p = some (d ++ [name]) :=
        fileAt?_eq_some_iff.2
          ⟨c, resolve_file_iff.2 ⟨hf, by simpa using hwd, hext.walk_place hp hn, hn⟩⟩
      exact ⟨d ++ [name], hext, ha, read_ok_iff.2 ⟨_, ha, hn⟩⟩

theorem dir_of_write (h : fs.write p c = .ok fs') (hd : fs'.node? l = some .dir) :
    fs.node? l = some .dir := by
  unfold write at h
  split at h
  · cases h
  · cases h
  · split at h
    · cases h
    · cases h
      rw [node?_put (by simp)] at hd
      split at hd
      · cases hd
      · exact hd

theorem Extends.of_makeDir (h : fs.makeDir p = .ok fs') : Extends [] fs fs' := by
  unfold makeDir at h
  split at h
  · cases h
  · cases h
  · split at h
    · cases h
    · next hn =>
      cases h
      exact Extends.put_dir (by simp) hn

end

/-! ## Writing at some paths only -/

/-- No file was written but at the paths of `Q`. -/
def WritesOnly (Q : Path → Prop) (fs fs' : FileSystem) : Prop :=
  ∃ ls, Extends ls fs fs' ∧ ∀ l ∈ ls, ∃ p, Q p ∧ fs'.fileAt? p = some l

section
variable {fs fs' fs'' : FileSystem} {Q Q' : Path → Prop} {p : Path} {l : Location} {c : Bytes}

theorem Extends.writesOnly (h : Extends [] fs fs') : WritesOnly Q fs fs' :=
  ⟨[], h, fun _ hl => absurd hl List.not_mem_nil⟩

theorem writesOnly_of_write (h : fs.write p c = .ok fs') : WritesOnly (· = p) fs fs' := by
  obtain ⟨l, hext, ha, -⟩ := exists_extends_of_write h
  refine ⟨[l], hext, fun l' hl' => ⟨p, rfl, ?_⟩⟩
  rw [List.mem_singleton.1 hl', ha]

theorem WritesOnly.mono (h : WritesOnly Q fs fs') (hQ : ∀ p, Q p → Q' p) :
    WritesOnly Q' fs fs' := by
  obtain ⟨ls, hext, hls⟩ := h
  refine ⟨ls, hext, fun l hl => ?_⟩
  obtain ⟨p, hp, ha⟩ := hls l hl
  exact ⟨p, hQ p hp, ha⟩

theorem WritesOnly.trans (h : WritesOnly Q fs fs') (h' : WritesOnly Q fs' fs'') :
    WritesOnly Q fs fs'' := by
  obtain ⟨ls, hext, hls⟩ := h
  obtain ⟨ls', hext', hls'⟩ := h'
  refine ⟨ls ++ ls', hext.trans hext', fun l hl => ?_⟩
  rcases List.mem_append.1 hl with hl | hl
  · obtain ⟨p, hp, ha⟩ := hls l hl
    exact ⟨p, hp, hext'.fileAt?_eq ha⟩
  · exact hls' l hl

theorem WritesOnly.fileAt?_eq (h : WritesOnly Q fs fs') (hl : fs.fileAt? p = some l) :
    fs'.fileAt? p = some l := by
  obtain ⟨ls, hext, -⟩ := h
  exact hext.fileAt?_eq hl

/-- A file that none of the paths leads to is as it was. -/
theorem WritesOnly.read_eq (h : WritesOnly Q fs fs') (hr : fs.read p = .ok c)
    (hne : ∀ q, Q q → fs'.fileAt? q ≠ fs'.fileAt? p) : fs'.read p = .ok c := by
  obtain ⟨ls, hext, hls⟩ := h
  refine hext.read_eq hr fun l hl ha => ?_
  obtain ⟨q, hq, hqa⟩ := hls l hl
  exact hne q hq (hqa.trans ha.symm)

end

end FileSystem

end Dialogue
