import Dialogue.Batch.Collect
import Dialogue.Proofs.World

/-!
# What collecting comes to

Following a pattern (`looks_expand`), and so collecting scripts (`collect_cases`), only asks
questions. What is collected is the path itself or files that are there.
-/

namespace Dialogue

open World

namespace Files

theorem looks_gather {search : Bytes → StateM World (Except FileError (List Path))}
    (h : ∀ n, Looks (search n)) (ns : List Bytes) : Looks (gather search ns) := by
  induction ns with
  | nil => exact looks_pure _
  | cons n ns ih =>
    refine (h n).bind fun found => ?_
    cases found with
    | error e => exact looks_pure _
    | ok ps => exact ih.bind fun rest => looks_pure _

/-- Searching among the names in a directory. -/
theorem looks_among {search : Bytes → StateM World (Except FileError (List Path))}
    (h : ∀ n, Looks (search n)) (good : Bytes → Bool) (p : Path) :
    Looks (do
      if ← isDir p then
        match ← names p with
        | .error e => pure (.error e)
        | .ok ns => gather search (ns.filter good)
      else pure (.ok []) : StateM World (Except FileError (List Path))) := by
  refine looks_isDir.bind fun there => ?_
  cases there with
  | false => exact looks_pure _
  | true =>
    refine looks_names.bind fun found => ?_
    cases found with
    | error e => exact looks_pure _
    | ok ns => exact looks_gather h _

theorem looks_expand (segments : List Segment) (p : Path) :
    Looks (expand segments p : StateM World (Except FileError (List Path))) := by
  induction segments generalizing p with
  | nil => exact looks_pure _
  | cons segment rest ih =>
    cases segment with
    | exact name =>
      have follow (found : Bool) : Looks (if found then expand rest (child p name) else
          pure (.ok []) : StateM World (Except FileError (List Path))) := by
        split
        · exact ih _
        · exact looks_pure _
      rw [expand]
      split
      · exact looks_isDir.bind follow
      · exact looks_exists?.bind follow
    | caseless name => exact looks_among (fun n => ih (child p n)) _ p
    | ending tail => exact looks_among (fun n => ih (child p n)) _ p

/-- What a pattern finds from a path on. -/
def find (segments : List Segment) (p : Path) (w : World) : Except FileError (List Path) :=
  ((expand segments p : StateM World (Except FileError (List Path))) w).1

/-- Where the pattern for a folder starts. -/
def origin (path : Path) : Path := if path.isAbsolute then ⟨[Path.slash]⟩ else ⟨[Path.dot]⟩

end Files

namespace Batch

theorem keep_apply (ps : List Path) (w : World) :
    (keep Files.isFile ps : StateM World (List Path)) w =
      (ps.filter fun p => w.files.kind? p = some .file, w) := by
  induction ps with
  | nil => rfl
  | cons p ps ih =>
    have h : (keep Files.isFile (p :: ps) : StateM World (List Path)) w =
        let rest := (keep Files.isFile ps : StateM World (List Path)) w
        (if decide (w.files.kind? p = some .file) then p :: rest.1 else rest.1, rest.2) := rfl
    rw [h, ih, List.filter_cons]

/-- Collecting from a folder follows the pattern for its script files, and what that finds is
sorted. -/
theorem collect_folder_cases {path : Path} {extension : String} {w w' : World}
    {r : Except Failure (List Path)} (hd : w.files.kind? path = some .dir)
    (h : exec (collect path extension) w = (r, w')) :
    w' = w ∧
      ((∃ e, r = .error (.error e) ∧ (path.toText? = none ∨ ∃ e',
          Files.find (Files.segments path (Bytes.ofText extension)) (Files.origin path) w =
            .error e')) ∨
        ∃ found, path.toText?.isSome ∧
          Files.find (Files.segments path (Bytes.ofText extension)) (Files.origin path) w =
            .ok found ∧
          r = .ok ((found.filter fun p => w.files.kind? p = some .file).mergeSort
            fun p q => !q.lt p)) := by
  have hisDir : ((Files.isDir path : StateM World Bool) w).1 = true := decide_eq_true hd
  rw [collect, exec_ask_bind, looks_isDir, hisDir] at h
  dsimp only at h
  split at h
  · next hne => cases hne
  · split at h
    · next ht =>
      cases h
      exact ⟨rfl, .inl ⟨_, rfl, .inl (Option.isNone_iff_eq_none.1 ht)⟩⟩
    · next ht =>
      rw [exec_ask_bind, Files.looks_expand] at h
      split at h
      · next e he =>
        cases h
        exact ⟨rfl, .inl ⟨_, rfl, .inr ⟨e, he⟩⟩⟩
      · next found hfound =>
        rw [exec_ask_bind, keep_apply] at h
        cases h
        refine ⟨rfl, .inr ⟨found, ?_, hfound, rfl⟩⟩
        simpa [Option.isSome_iff_ne_none] using ht

theorem isFile_of_mem_collect {path p : Path} {extension : String} {w w' : World}
    {files : List Path} (hd : w.files.kind? path = some .dir)
    (h : exec (collect path extension) w = (.ok files, w')) (hp : p ∈ files) :
    w.files.kind? p = some .file := by
  obtain ⟨-, ⟨e, he, -⟩ | ⟨found, -, -, hfiles⟩⟩ := collect_folder_cases hd h
  · cases he
  · cases hfiles
    rw [List.mem_mergeSort, List.mem_filter] at hp
    simpa using hp.2

theorem collect_cases {path : Path} {extension : String} {w w' : World}
    {r : Except Failure (List Path)} (h : exec (collect path extension) w = (r, w')) :
    w' = w ∧ ((∃ e, r = .error (.error e)) ∨ r = .ok [path] ∨
      ∃ files, r = .ok files ∧ ∀ p ∈ files, w.files.kind? p = some .file) := by
  by_cases hd : w.files.kind? path = some .dir
  · obtain ⟨rfl, hr⟩ := collect_folder_cases hd h
    refine ⟨rfl, ?_⟩
    cases r with
    | ok files => exact .inr (.inr ⟨files, rfl, fun p => isFile_of_mem_collect hd h⟩)
    | error e =>
      obtain ⟨e', he, -⟩ | ⟨found, -, -, hfiles⟩ := hr
      · exact .inl ⟨e', he⟩
      · cases hfiles
  · have hisDir : ((Files.isDir path : StateM World Bool) w).1 = false := decide_eq_false hd
    rw [collect, exec_ask_bind, looks_isDir, hisDir] at h
    cases h
    exact ⟨rfl, .inr (.inl rfl)⟩

end Batch

end Dialogue
