import Dialogue.Batch.Run
import Dialogue.Proofs.Jobs

/-!
# Runs of a batch

`Ran job w rs w'`: doing the job for the files of `rs`, one after the other, comes to the results
that `rs` gives them and leads from the world `w` to `w'`. A batch whose jobs do not crash comes to
such results and sums them up (`run_cases`). If the job is confined, so is a run
(`Ran.writesOnly`).
-/

namespace Dialogue.Batch

open World

variable {job : Path → ExceptT Failure (StateM World) Outcome} {w w' : World}
  {rs : List (Path × Except ToolError Outcome)}

/-- The job for one file, and the notice about its end. -/
def Turn (job : Path → ExceptT Failure (StateM World) Outcome) (w : World) (file : Path)
    (r : Except ToolError Outcome) (w' : World) : Prop :=
  ∃ w₀, exec (job file) w = (r.mapError .error, w₀) ∧
    w' = { w₀ with notices := w₀.notices ++ [notice file r] }

inductive Ran (job : Path → ExceptT Failure (StateM World) Outcome) :
    World → List (Path × Except ToolError Outcome) → World → Prop
  | nil (w : World) : Ran job w [] w
  | cons {w w₁ w' : World} {file : Path} {r : Except ToolError Outcome}
      {rs : List (Path × Except ToolError Outcome)} :
      Turn job w file r w₁ → Ran job w₁ rs w' → Ran job w ((file, r) :: rs) w'

/-- Some file is reported as written to `out`. -/
def Writes (rs : List (Path × Except ToolError Outcome)) (out : Path) : Prop :=
  ∃ file, (file, .ok (.written out)) ∈ rs

/-- The summary of some results, in their order. -/
def Summary.of (rs : List (Path × Except ToolError Outcome)) : Summary :=
  rs.foldl (fun s r => s.add r.1 r.2) .empty

/-- A turn ends with its result counted and the rest of the batch to do. -/
theorem exec_runFrom_cons {file : Path} {r : Except ToolError Outcome} {w₁ : World}
    (h : Turn job w file r w₁) (done : Summary) (files : List Path) :
    exec (runFrom job done (file :: files)) w =
      exec (runFrom job (done.add file r) files) w₁ := by
  obtain ⟨w₀, hj, rfl⟩ := h
  cases r with
  | ok outcome =>
    have hrun : (job file).run w = (.ok outcome, w₀) := hj
    rw [runFrom, exec_ask_bind, hrun]
    rfl
  | error e =>
    have hrun : (job file).run w = (.error (.error e), w₀) := hj
    rw [runFrom, exec_ask_bind, hrun]
    rfl

theorem exec_runFrom_append (h : Ran job w rs w') (done : Summary) (files : List Path) :
    exec (runFrom job done (rs.map (·.1) ++ files)) w =
      exec (runFrom job (rs.foldl (fun s r => s.add r.1 r.2) done) files) w' := by
  induction h generalizing done with
  | nil w => rfl
  | cons ht _ ih => exact (exec_runFrom_cons ht done _).trans (ih _)

theorem exec_run (h : Ran job w rs w') :
    exec (run job (rs.map (·.1))) w = (.ok (.of rs), w') := by
  rw [← List.append_nil (rs.map (·.1)), run, exec_runFrom_append h]
  rfl

/-- A job that crashes ends the batch, and nothing is said about it. -/
theorem exec_run_crash (h : Ran job w rs w') {file : Path} {w₁ : World}
    (hc : exec (job file) w' = (.error .crash, w₁)) (after : List Path) :
    exec (run job (rs.map (·.1) ++ file :: after)) w = (.error .crash, w₁) := by
  have hrun : (job file).run w' = (.error .crash, w₁) := hc
  rw [run, exec_runFrom_append h, runFrom, exec_ask_bind, hrun]
  rfl

/-- A batch gets through all its files or to one whose job crashes. -/
theorem exists_ran_or_crash (files : List Path) (w : World) :
    (∃ rs w', Ran job w rs w' ∧ rs.map (·.1) = files) ∨
      ∃ rs w₁ file after w', Ran job w rs w₁ ∧ files = rs.map (·.1) ++ file :: after ∧
        exec (job file) w₁ = (.error .crash, w') := by
  induction files generalizing w with
  | nil => exact .inl ⟨[], w, .nil w, rfl⟩
  | cons file files ih =>
    have turn (r : Except ToolError Outcome) (w₁ : World) (ht : Turn job w file r w₁) :
        (∃ rs w', Ran job w rs w' ∧ rs.map (·.1) = file :: files) ∨
          ∃ rs w₁ bad after w', Ran job w rs w₁ ∧
            file :: files = rs.map (·.1) ++ bad :: after ∧
            exec (job bad) w₁ = (.error .crash, w') := by
      obtain ⟨rs, w', hran, rfl⟩ | ⟨rs, w₂, bad, after, w', hran, rfl, hbad⟩ := ih w₁
      · exact .inl ⟨(file, r) :: rs, w', .cons ht hran, rfl⟩
      · exact .inr ⟨(file, r) :: rs, w₂, bad, after, w', .cons ht hran, rfl, hbad⟩
    match hj : exec (job file) w with
    | (.ok outcome, w₀) => exact turn (.ok outcome) _ ⟨w₀, hj, rfl⟩
    | (.error (.error e), w₀) => exact turn (.error e) _ ⟨w₀, hj, rfl⟩
    | (.error .crash, w₀) => exact .inr ⟨[], w, file, files, w₀, .nil w, rfl, hj⟩

theorem exists_ran {files : List Path}
    (hc : ∀ file ∈ files, ∀ w, (exec (job file) w).1 ≠ .error .crash) (w : World) :
    ∃ rs w', Ran job w rs w' ∧ rs.map (·.1) = files := by
  obtain hran | ⟨rs, w₁, file, after, w', -, rfl, hbad⟩ := @exists_ran_or_crash job files w
  · exact hran
  · exact absurd (congrArg Prod.fst hbad) (hc file (by simp) w₁)

/-- Unless its jobs crash, a batch gets to its end, and its summary is of all results. -/
theorem run_cases {files : List Path} {r : Except Failure Summary}
    (hc : ∀ file ∈ files, ∀ w, (exec (job file) w).1 ≠ .error .crash)
    (h : exec (run job files) w = (r, w')) :
    ∃ rs, Ran job w rs w' ∧ rs.map (·.1) = files ∧ r = .ok (.of rs) := by
  obtain ⟨rs, w₁, hran, rfl⟩ := exists_ran hc w
  rw [exec_run hran] at h
  cases h
  exact ⟨rs, hran, rfl, rfl⟩

theorem ran_append_iff {before after : List (Path × Except ToolError Outcome)} :
    Ran job w (before ++ after) w' ↔ ∃ w₁, Ran job w before w₁ ∧ Ran job w₁ after w' := by
  induction before generalizing w with
  | nil =>
    constructor
    · exact fun h => ⟨w, .nil w, h⟩
    · rintro ⟨_, ⟨⟩, h⟩
      exact h
  | cons r before ih =>
    constructor
    · rintro (_ | ⟨ht, hr⟩)
      obtain ⟨w₁, hb, ha⟩ := ih.1 hr
      exact ⟨w₁, .cons ht hb, ha⟩
    · rintro ⟨w₁, _ | ⟨ht, hb⟩, ha⟩
      exact .cons ht (ih.2 ⟨w₁, hb, ha⟩)

/-- The results of a run over one file. -/
theorem Ran.eq_singleton {file : Path} {outcome : Outcome} (h : Ran job w rs w')
    (hf : rs.map (·.1) = [file]) (ho : (exec (job file) w).1 = .ok outcome) :
    rs = [(file, .ok outcome)] := by
  cases h with
  | nil => cases hf
  | @cons _ _ _ _ r rs ht _ =>
    rw [List.map_cons, List.cons.injEq, List.map_eq_nil_iff] at hf
    obtain ⟨rfl, rfl⟩ := hf
    obtain ⟨w₀, hj, -⟩ := ht
    rw [hj] at ho
    cases r with
    | ok o =>
      cases ho
      rfl
    | error e => cases ho

/-- A run writes no files but those that it reports. -/
theorem Ran.writesOnly (hj : Confined job) (h : Ran job w rs w') :
    w.files.WritesOnly (Writes rs) w'.files := by
  induction h with
  | nil w => exact (FileSystem.Extends.refl _).writesOnly
  | @cons w w₁ w' file r rs ht _ ih =>
    obtain ⟨w₀, hjob, rfl⟩ := ht
    refine ((hj _ _ _ _ hjob).mono fun out ho => ?_).trans (ih.mono fun out ho => ?_)
    · cases r with
      | ok outcome =>
        cases ho
        exact ⟨file, List.mem_cons_self⟩
      | error e => cases ho
    · obtain ⟨file', hm⟩ := ho
      exact ⟨file', List.mem_cons_of_mem _ hm⟩

end Dialogue.Batch
