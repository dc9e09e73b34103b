import Dialogue.Proofs.BatchExport
import Mathlib

/-!
# Failing files and their batch

The summary of a run counts its results and keeps the errors in their order (`Summary.of_eq`). Jobs
crash only for want of a text path, so a failing file stops the batch only if the text extension
holds a slash (`batch_isolates`).
-/

namespace Dialogue.Batch

open World

/-! ## Summaries -/

def isWritten (r : Path × Except ToolError Outcome) : Bool :=
  match r.2 with
  | .ok (.written _) => true
  | _ => false

def isSkipped (r : Path × Except ToolError Outcome) : Bool :=
  match r.2 with
  | .ok (.skipped _) => true
  | _ => false

/-- The files whose jobs ended in an error, each with its error. -/
def failures (rs : List (Path × Except ToolError Outcome)) : List (Path × ToolError) :=
  rs.filterMap fun r =>
    match r.2 with
    | .ok _ => none
    | .error e => some (r.1, e)

theorem foldl_add (rs : List (Path × Except ToolError Outcome)) (sum : Summary) :
    rs.foldl (fun s r => s.add r.1 r.2) sum =
      ⟨sum.written + rs.countP isWritten, sum.skipped + rs.countP isSkipped,
        sum.failed ++ failures rs⟩ := by
  induction rs generalizing sum with
  | nil => simp [failures]
  | cons r rs ih =>
    obtain ⟨file, r⟩ := r
    rw [List.foldl_cons, ih, List.countP_cons, List.countP_cons]
    rcases r with e | (out | why)
    · simp [Summary.add, failures, isWritten, isSkipped]
    · simp [Summary.add, failures, isWritten, isSkipped]
      omega
    · simp [Summary.add, failures, isWritten, isSkipped]
      omega

theorem Summary.of_eq (rs : List (Path × Except ToolError Outcome)) :
    Summary.of rs = ⟨rs.countP isWritten, rs.countP isSkipped, failures rs⟩ := by
  unfold Summary.of
  rw [foldl_add]
  simp [Summary.empty]

/-- Each result is counted once. -/
theorem Summary.count_of (rs : List (Path × Except ToolError Outcome)) :
    (Summary.of rs).written + (Summary.of rs).skipped + (Summary.of rs).failed.length =
      rs.length := by
  rw [Summary.of_eq]
  dsimp only
  induction rs with
  | nil => rfl
  | cons r rs ih =>
    obtain ⟨file, r⟩ := r
    rw [List.countP_cons, List.countP_cons, List.length_cons, ← ih]
    rcases r with e | (out | why)
    · simp [failures, isWritten, isSkipped]
      omega
    · simp [failures, isWritten, isSkipped]
      omega
    · simp [failures, isWritten, isSkipped]
      omega

/-! ## Runs that stop -/

variable {charset : Charset} {s : Settings} {path : Path} {w w' : World} {files : List Path}
  {job : Path → ExceptT Failure (StateM World) Outcome}

theorem buildFile_ne_crash (hs : '/' ∉ s.textExtension.toList) (p : Path) (w : World) :
    (exec (buildFile charset s p) w).1 ≠ .error .crash := by
  intro h
  obtain ⟨-, -, hc⟩ | ⟨_, _, _, _, _, _, _, _, hr, -⟩ := buildFile_cases (Prod.eta _).symm
  · exact textPath_ne_none hs p (hc h)
  · rw [h] at hr
    cases hr

/-- Exporting or building all scripts that were collected comes to a summary of all their results,
in which each script counts once and the failed ones stand in order with their errors. Only if the
text extension holds a slash can a script stop the batch instead, and then those before it are done
and those behind it are not. -/
theorem batch_isolates (hjob : job = exportFile charset s ∨ job = buildFile charset s)
    (hcol : exec (collect path s.scriptExtension) w = (.ok files, w')) :
    w' = w ∧
      ((∃ rs w₁, Ran job w rs w₁ ∧ rs.map (·.1) = files ∧
          exec (run job files) w =
            (.ok ⟨rs.countP isWritten, rs.countP isSkipped, failures rs⟩, w₁) ∧
          rs.countP isWritten + rs.countP isSkipped + (failures rs).length = files.length) ∨
        ('/' ∈ s.textExtension.toList ∧ ∃ rs w₁ file after w₂, Ran job w rs w₁ ∧
          files = rs.map (·.1) ++ file :: after ∧ exec (job file) w₁ = (.error .crash, w₂) ∧
          exec (run job files) w = (.error .crash, w₂))) := by
  obtain ⟨rfl, -⟩ := collect_cases hcol
  refine ⟨rfl, ?_⟩
  obtain ⟨rs, w₁, hran, rfl⟩ | ⟨rs, w₁, file, after, w₂, hran, rfl, hbad⟩ :=
    @exists_ran_or_crash job files w'
  · left
    have hrun := exec_run hran
    have hcount := Summary.count_of rs
    rw [Summary.of_eq] at hrun hcount
    exact ⟨rs, w₁, hran, rfl, hrun, by rw [List.length_map, hcount]⟩
  · right
    refine ⟨?_, rs, w₁, file, after, w₂, hran, rfl, hbad, exec_run_crash hran hbad after⟩
    refine Decidable.byContradiction fun hs => ?_
    have hcrash : (exec (job file) w₁).1 = .error .crash := congrArg Prod.fst hbad
    rcases hjob with rfl | rfl
    · exact exportFile_ne_crash hs file w₁ hcrash
    · exact buildFile_ne_crash hs file w₁ hcrash

/-- Two scripts, and a folder where the text of the first would be. -/
def sampleBlocked : World where
  files := {
    entries := [([Bytes.ofText "a.mes"], .file sampleScript), ([Bytes.ofText "a.txt"], .dir),
      ([Bytes.ofText "s.mes"], .file sampleScript)]
    workDir := [] }

theorem batch_isolates_sample :
    ∃ rs w₁, Ran (exportFile .utf8 .default) sampleBlocked rs w₁ ∧
      rs.map (·.1) = [.ofString "a.mes", .ofString "s.mes"] ∧
      exec (run (exportFile .utf8 .default) [.ofString "a.mes", .ofString "s.mes"])
          sampleBlocked =
        (.ok ⟨rs.countP isWritten, rs.countP isSkipped, failures rs⟩, w₁) ∧
      rs.countP isWritten + rs.countP isSkipped + (failures rs).length = 2 ∧
      (.ofString "a.mes", ⟨some "writing a.txt", .file .isDirectory⟩) ∈ failures rs := by
  have hfiles : (exec (collect (.ofString ".") Settings.default.scriptExtension)
      sampleBlocked).1 = .ok [.ofString "a.mes", .ofString "s.mes"] := by
    cbv
  have hfirst : (exec (exportFile .utf8 .default (.ofString "a.mes")) sampleBlocked).1 =
      .error (.error ⟨some "writing a.txt", .file .isDirectory⟩) := by
    cbv
  generalize hcol : exec (collect (.ofString ".") Settings.default.scriptExtension)
    sampleBlocked = x at hfiles
  obtain ⟨r, w'⟩ := x
  have hr : r = .ok [.ofString "a.mes", .ofString "s.mes"] := hfiles
  subst hr
  obtain ⟨-, ⟨rs, w₁, hran, hmap, hrun, hcount⟩ | ⟨hslash, -⟩⟩ :=
    @batch_isolates .utf8 .default _ _ _ _ _ (.inl rfl) hcol
  · refine ⟨rs, w₁, hran, hmap, hrun, hcount, ?_⟩
    cases hran with
    | nil => cases hmap
    | @cons _ _ _ file r rs ht _ =>
      obtain ⟨rfl, -⟩ := List.cons.inj hmap
      obtain ⟨w₀, hj, -⟩ := ht
      rw [hj] at hfirst
      cases r with
      | ok outcome => cases hfirst
      | error e =>
        cases hfirst
        exact List.mem_cons_self
  · exact absurd hslash (by decide)

/-- With a slash in the text extension the first script with text, or the first script that is
built, stops the batch. -/
theorem not_batch_isolates :
    ∃ s, Settings.parse "text_extension = \"a/b\"" = .ok s ∧
      (exec (collect (.ofString ".") s.scriptExtension) sampleTwins).1 =
        .ok [.ofString "s.MES", .ofString "s.mes"] ∧
      (exec (run (exportFile .utf8 s) [.ofString "s.MES", .ofString "s.mes"]) sampleTwins).1 =
        .error .crash ∧
      (exec (run (buildFile .utf8 s) [.ofString "s.MES", .ofString "s.mes"]) sampleTwins).1 =
        .error .crash := by
  refine ⟨{ Settings.default with textExtension := "a/b" }, ?_, ?_, ?_, ?_⟩
  · cbv
  · cbv
  · cbv
  · cbv

end Dialogue.Batch
