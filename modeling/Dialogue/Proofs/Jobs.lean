import Dialogue.Batch.Job
import Dialogue.Proofs.World

/-!
# What jobs do to files

`exportFile_cases` and `buildFile_cases` say all that a job can come to: it leaves the files alone,
but for folders, or it writes one file, reports it, and everything before the writing went well. So
both jobs are `Confined`.
-/

namespace Dialogue

namespace Batch

open World

variable {w w' : World} {path : Path}

theorem loadScript_cases {r : Except Failure Script} (h : exec (loadScript path) w = (r, w')) :
    w'.files = w.files ∧ ((∃ e, r = .error (.error e)) ∨
      ∃ bytes script, r = .ok script ∧ w.files.read path = .ok bytes ∧
        Script.load bytes = .ok script) := by
  rw [loadScript, exec_ask_bind, read_apply] at h
  obtain ⟨bytes, hread, h⟩ | ⟨rfl, he⟩ := exec_attempt_bind_cases h
  · rw [exec_report_bind] at h
    obtain ⟨rfl, ⟨script, hload, hr⟩ | he⟩ := exec_attempt_cases h
    · exact ⟨rfl, .inr ⟨bytes, script, hr, hread, hload⟩⟩
    · exact ⟨rfl, .inl he⟩
  · exact ⟨rfl, .inl he⟩

theorem textPathOf_cases {s : Settings} {r : Except Failure Path}
    (h : exec (textPathOf s path) w = (r, w')) :
    w' = w ∧ ((∃ text, textPath s path = some text ∧ r = .ok text) ∨
      (textPath s path = none ∧ r = .error .crash)) := by
  unfold textPathOf at h
  split at h
  · next text ht =>
    cases h
    exact ⟨rfl, .inl ⟨text, ht, rfl⟩⟩
  · next ht =>
    cases h
    exact ⟨rfl, .inr ⟨ht, rfl⟩⟩

/-- All that exporting a script can do: nothing to files, or write the text of the script to its
text path and report that. -/
theorem exportFile_cases {charset : Charset} {s : Settings} {r : Except Failure Outcome}
    (h : exec (exportFile charset s path) w = (r, w')) :
    (w'.files = w.files ∧ (∀ out, r ≠ .ok (.written out)) ∧
        (r = .error .crash → textPath s path = none)) ∨
      ∃ bytes script units out, r = .ok (.written out) ∧ textPath s path = some out ∧
        w.files.read path = .ok bytes ∧ Script.load bytes = .ok script ∧
        script.exportText charset = .ok units ∧
        w.files.write out (Bytes.ofText (Artifact.render units)) = .ok w'.files := by
  rw [exportFile] at h
  obtain ⟨script, w₁, hl, h⟩ | ⟨e, hl, rfl⟩ := exec_bind_cases h
  · obtain ⟨hw, ⟨_, ⟨⟩⟩ | ⟨bytes, _, ⟨⟩, hread, hload⟩⟩ := loadScript_cases hl
    rw [← hw]
    split at h
    · cases h
      exact .inl ⟨rfl, by simp, by simp⟩
    · next units hunits =>
      split at h
      · cases h
        exact .inl ⟨rfl, by simp, by simp⟩
      · obtain ⟨out, w₂, ht, hrest⟩ | ⟨e, ht, rfl⟩ := exec_bind_cases h
        · obtain ⟨rfl, ⟨_, hp, ⟨⟩⟩ | ⟨-, ⟨⟩⟩⟩ := textPathOf_cases ht
          obtain ⟨fs, hwr, hend⟩ | ⟨rfl, e, rfl⟩ := exec_write_bind_cases hrest
          · cases hend
            exact .inr ⟨bytes, script, units, out, rfl, hp, hw ▸ hread, hload, hunits, hwr⟩
          · exact .inl ⟨rfl, by simp, by simp⟩
        · obtain ⟨rfl, ⟨_, -, ⟨⟩⟩ | ⟨hp, -⟩⟩ := textPathOf_cases ht
          exact .inl ⟨rfl, by simp, fun _ => hp⟩
  · obtain ⟨hw, ⟨_, ⟨⟩⟩ | ⟨_, _, ⟨⟩, -⟩⟩ := loadScript_cases hl
    exact .inl ⟨hw, by simp, by simp⟩

/-! ## Building -/

/-- Make the folder of a file. -/
def makeFolder (out : Path) : ExceptT Failure (StateM World) Unit :=
  match out.parent with
  | none => pure ()
  | some dir => do attempt s!"creating {dir.display}" .file (← ask (Files.makeDirs dir))

theorem makeFolder_cases {out : Path} {r : Except Failure Unit}
    (h : exec (makeFolder out) w = (r, w')) :
    w.files.Changes (·.Above out) [] w'.files ∧ (r = .ok () ∨ ∃ e, r = .error (.error e)) := by
  unfold makeFolder at h
  split at h
  · cases h
    exact ⟨.refl _, .inl rfl⟩
  · next dir hdir =>
    rw [exec_ask_bind] at h
    obtain ⟨rfl, ⟨_, -, rfl⟩ | he⟩ := exec_attempt_cases h
    · exact ⟨founds_makeDirs hdir w, .inl rfl⟩
    · exact ⟨founds_makeDirs hdir w, .inr he⟩

theorem writeRebuilt_eq (s : Settings) (path : Path) (script : Script) :
    (writeRebuilt s path script : ExceptT Failure (StateM World) Outcome) =
      match rebuildPath s path with
      | .error e => throw (.error e)
      | .ok out => do
        makeFolder out
        attempt s!"writing {out.display}" .file (← ask (Files.write out script.save))
        return .written out := by
  unfold writeRebuilt makeFolder
  cases rebuildPath s path with
  | error e => rfl
  | ok out =>
    dsimp only
    cases out.parent <;> simp

/-- The path is above the one that a script is rebuilt to. -/
def AboveRebuilt (s : Settings) (path p : Path) : Prop :=
  ∃ out, rebuildPath s path = .ok out ∧ p.Above out

theorem writeRebuilt_cases {s : Settings} {script : Script} {r : Except Failure Outcome}
    (h : exec (writeRebuilt s path script) w = (r, w')) :
    (w.files.Changes (AboveRebuilt s path) [] w'.files ∧ ∃ e, r = .error (.error e)) ∨
      ∃ out fs, r = .ok (.written out) ∧ rebuildPath s path = .ok out ∧
        w.files.Changes (AboveRebuilt s path) [] fs ∧
        fs.write out script.save = .ok w'.files := by
  rw [writeRebuilt_eq] at h
  split at h
  · cases h
    exact .inl ⟨.refl _, _, rfl⟩
  · next out hp =>
    have habove : ∀ p : Path, p.Above out → AboveRebuilt s path p := fun p ha => ⟨out, hp, ha⟩
    obtain ⟨_, w₁, hm, h⟩ | ⟨e, hm, rfl⟩ := exec_bind_cases h
    · obtain ⟨hch, -⟩ := makeFolder_cases hm
      obtain ⟨fs, hwr, h⟩ | ⟨rfl, he⟩ := exec_write_bind_cases h
      · cases h
        exact .inr ⟨out, w₁.files, rfl, hp, hch.mono habove, hwr⟩
      · exact .inl ⟨hch.mono habove, he⟩
    · obtain ⟨hch, he | ⟨e', he⟩⟩ := makeFolder_cases hm
      · cases he
      · cases he
        exact .inl ⟨hch.mono habove, e', rfl⟩

/-- All that building a script can do: write no file, or write the script with its text put in to
its rebuild path and report that. Only folders above that path are made. -/
theorem buildFile_cases {charset : Charset} {s : Settings} {r : Except Failure Outcome}
    (h : exec (buildFile charset s path) w = (r, w')) :
    (w.files.Changes (AboveRebuilt s path) [] w'.files ∧ (∀ out, r ≠ .ok (.written out)) ∧
        (r = .error .crash → textPath s path = none)) ∨
      ∃ textFile bytes script text rebuilt report out fs, r = .ok (.written out) ∧
        textPath s path = some textFile ∧ w.files.read path = .ok bytes ∧
        Script.load bytes = .ok script ∧ w.files.readText textFile = .ok text ∧
        script.importText charset text = .ok (rebuilt, report) ∧ rebuildPath s path = .ok out ∧
        w.files.Changes (AboveRebuilt s path) [] fs ∧
        fs.write out rebuilt.save = .ok w'.files := by
  rw [buildFile] at h
  obtain ⟨textFile, w₂, ht, h₁⟩ | ⟨e, ht, rfl⟩ := exec_bind_cases h
  · obtain ⟨rfl, ⟨_, htp, ⟨⟩⟩ | ⟨-, ⟨⟩⟩⟩ := textPathOf_cases ht
    rw [exec_ask_bind, looks_exists?] at h₁
    split at h₁
    · cases h₁
      exact .inl ⟨.refl _, by simp, by simp⟩
    · obtain ⟨script, w₁, hl, h₂⟩ | ⟨e, hl, rfl⟩ := exec_bind_cases h₁
      · obtain ⟨hw, ⟨_, ⟨⟩⟩ | ⟨bytes, _, ⟨⟩, hread, hload⟩⟩ := loadScript_cases hl
        rw [exec_ask_bind, readText_apply] at h₂
        rw [← hw] at hread ⊢
        obtain ⟨text, htext, h₃⟩ | ⟨rfl, e, rfl⟩ := exec_attempt_bind_cases h₂
        · rw [exec_report_bind] at h₃
          obtain ⟨⟨rebuilt, report⟩, himp, h₄⟩ | ⟨rfl, e, rfl⟩ := exec_attempt_bind_cases h₃
          · rw [exec_report_bind] at h₄
            obtain ⟨hch, e, rfl⟩ | ⟨out, fs, rfl, hp, hch, hwr⟩ := writeRebuilt_cases h₄
            · exact .inl ⟨hch, by simp, by simp⟩
            · exact .inr ⟨textFile, bytes, script, text, rebuilt, report, out, fs, rfl, htp, hread,
                hload, htext, himp, hp, hch, hwr⟩
          · exact .inl ⟨.refl _, by simp, by simp⟩
        · exact .inl ⟨.refl _, by simp, by simp⟩
      · obtain ⟨hw, ⟨_, ⟨⟩⟩ | ⟨_, _, ⟨⟩, -⟩⟩ := loadScript_cases hl
        rw [hw]
        exact .inl ⟨.refl _, by simp, by simp⟩
  · obtain ⟨rfl, ⟨_, -, ⟨⟩⟩ | ⟨htp, -⟩⟩ := textPathOf_cases ht
    exact .inl ⟨.refl _, by simp, fun _ => htp⟩

/-! ## Confined jobs -/

/-- The job writes no file but the one that it reports. -/
def Confined (job : Path → ExceptT Failure (StateM World) Outcome) : Prop :=
  ∀ (w w' : World) (file : Path) (r : Except Failure Outcome), exec (job file) w = (r, w') →
    w.files.WritesOnly (fun out => r = .ok (.written out)) w'.files

theorem confined_exportFile (charset : Charset) (s : Settings) :
    Confined (exportFile charset s) := by
  intro w w' file r h
  obtain ⟨hw, -⟩ | ⟨_, _, _, out, rfl, -, -, -, -, hwr⟩ := exportFile_cases h
  · rw [hw]
    exact (FileSystem.Extends.refl _).writesOnly
  · exact (FileSystem.writesOnly_of_write hwr).mono fun _ ho => by rw [ho]

theorem confined_buildFile (charset : Charset) (s : Settings) :
    Confined (buildFile charset s) := by
  intro w w' file r h
  obtain ⟨hch, -⟩ | ⟨_, _, _, _, _, _, out, _, rfl, -, -, -, -, -, -, hch, hwr⟩ :=
    buildFile_cases h
  · exact hch.toExtends.writesOnly
  · refine hch.toExtends.writesOnly.trans ?_
    exact (FileSystem.writesOnly_of_write hwr).mono fun _ ho => by rw [ho]

/-! ## A script and its text -/

def sampleScript : Bytes :=
  [1, 0, 0, 0, 0x0A, 0, 0, 0x80, 7, 0, 1, 0xAB, 0, 0x10, 0, 0, 0x6B, 0x28, 0x49, 0, 0x10, 0, 0]

/-- A script and its text, which asks for another string, in the working directory. -/
def sampleWorld : World where
  files := {
    entries := [([Bytes.ofText "s.mes"], .file sampleScript),
      ([Bytes.ofText "s.txt"], .file (Bytes.ofText "◆00000006◆x\n"))]
    workDir := [] }

end Batch

end Dialogue
