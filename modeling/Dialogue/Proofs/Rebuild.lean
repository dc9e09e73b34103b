import Dialogue.Proofs.Jobs
import Dialogue.Proofs.Walk
import Mathlib

/-!
# Building and the script

Building writes the rebuilt script to its rebuild path, so a script is safe unless that path leads
to the script itself. It cannot if the rebuild folder is a path that descends
(`fileAt?_rebuildPath_ne`): then every walk to the rebuilt script goes on below the folder of the
script.
-/

namespace Dialogue

/-- A relative path that goes down and never up. -/
def Path.Descends (p : Path) : Prop :=
  p.isAbsolute = false ∧ p.moves ≠ [] ∧ [Path.dot, Path.dot] ∉ p.moves

instance (p : Path) : Decidable p.Descends := inferInstanceAs (Decidable (_ ∧ _ ∧ _))

namespace FileSystem

variable {fs : FileSystem} {p q : Path} {l l' : Location}

/-- Two paths do not lead to one file if the second goes further down from the folder that both
pass. -/
theorem fileAt?_ne_of_moves {ms ds : List Name} {n : Name} (hs : q.isAbsolute = p.isAbsolute)
    (hp : p.moves = ms ++ [n]) (hq : q.moves = ms ++ ds ++ [n]) (hn : n ≠ here ∧ n ≠ up)
    (hd : ∀ d ∈ ds, d ≠ here ∧ d ≠ up) (hne : ds ≠ []) (hl : fs.fileAt? p = some l) :
    fs.fileAt? q ≠ some l := by
  intro hl'
  have hwp := walk_moves hl
  have hwq := walk_moves hl'
  have hstart : fs.start q = fs.start p := by rw [start, start, hs]
  rw [hp, walk_append_ok_iff] at hwp
  obtain ⟨dir, hdir, hlast⟩ := hwp
  rw [hq, hstart, List.append_assoc, walk_append_ok_iff] at hwq
  obtain ⟨dir', hdir', hlast'⟩ := hwq
  rw [hdir] at hdir'
  cases hdir'
  -- Both walks pass `dir`; from there neither turns back, so their lengths tell them apart.
  have h1 : l = dir ++ [n] := eq_append_of_walk (by simpa using hn) hlast
  have h2 : l = dir ++ (ds ++ [n]) := by
    refine eq_append_of_walk (fun x hx => ?_) hlast'
    rcases List.mem_append.1 hx with hx | hx
    · exact hd x hx
    · rw [List.mem_singleton.1 hx]
      exact hn
  rw [h1, List.append_cancel_left_eq] at h2
  exact hne (by simpa using h2)

end FileSystem

namespace Batch

open World

variable {s : Settings} {path out : Path} {w w' : World}

/-- A rebuilt script in a folder below that of the script is another file. -/
theorem fileAt?_rebuildPath_ne {fs : FileSystem} {l : Location}
    (hd : (Path.ofString s.rebuildDir).Descends) (h : rebuildPath s path = .ok out)
    (hl : fs.fileAt? path = some l) : fs.fileAt? out ≠ some l := by
  obtain ⟨hrel, hmoves, hup⟩ := hd
  unfold rebuildPath at h
  split at h
  · cases h
  · next n hn =>
    cases h
    obtain ⟨dir, hdir, habs, hm, hmove, hnup, hslash⟩ := Path.exists_parent_of_fileName hn
    have hnrel := Path.isAbsolute_eq_false hslash
    have hnhere : n ≠ FileSystem.here := by
      rintro rfl
      exact absurd hmove (by decide)
    rw [hdir, Option.getD_some]
    refine FileSystem.fileAt?_ne_of_moves ?_ hm ?_ ⟨hnhere, hnup⟩ (fun d hd => ?_) hmoves hl
    · rw [Path.isAbsolute_join hnrel, Path.isAbsolute_join hrel, habs]
    · rw [Path.moves_join hnrel, Path.moves_join hrel, Path.moves_eq_singleton hslash hmove]
    · refine ⟨FileSystem.ne_here_of_mem_moves hd, ?_⟩
      rintro rfl
      exact hup hd

/-- After a build, whatever it comes to, the script has its bytes unless the build reports to have
written to a path that leads to it; none does if the rebuild folder descends. -/
theorem read_eq_of_buildFile {charset : Charset} {r : Except Failure Outcome} {bytes : Bytes}
    (hr : w.files.read path = .ok bytes) (h : exec (buildFile charset s path) w = (r, w')) :
    ((∀ out, r = .ok (.written out) → w'.files.fileAt? out ≠ w'.files.fileAt? path) →
      w'.files.read path = .ok bytes) ∧
    ((Path.ofString s.rebuildDir).Descends → w'.files.read path = .ok bytes) := by
  have honly := confined_buildFile charset s _ _ _ _ h
  refine ⟨honly.read_eq hr, fun hd => honly.read_eq hr fun out ho hout => ?_⟩
  obtain ⟨-, hno, -⟩ | ⟨_, _, _, _, _, _, _, _, hw, -, -, -, -, -, hp, -, -⟩ := buildFile_cases h
  · exact hno out ho
  · cases ho.symm.trans hw
    obtain ⟨l, hl, -⟩ := FileSystem.read_ok_iff.1 hr
    have hl' := honly.fileAt?_eq hl
    exact fileAt?_rebuildPath_ne hd hp hl' (hout.trans hl')

theorem read_eq_of_buildFile_sample :
    (exec (buildFile .utf8 .default (.ofString "s.mes")) sampleWorld).1 =
        .ok (.written (.ofString "rebuild/s.mes")) ∧
      (exec (buildFile .utf8 .default (.ofString "s.mes")) sampleWorld).2.files.read
        (.ofString "s.mes") = .ok sampleScript := by
  have hread : sampleWorld.files.read (.ofString "s.mes") = .ok sampleScript := by cbv
  have hdown : (Path.ofString Settings.default.rebuildDir).Descends := by decide
  exact ⟨by cbv, (read_eq_of_buildFile hread (Prod.eta _).symm).2 hdown⟩

/-- A rebuild folder that stays where the script is loses the script. -/
theorem not_read_eq_of_buildFile : ∃ s, Settings.parse "rebuild_dir = \".\"" = .ok s ∧
    sampleWorld.files.read (.ofString "s.mes") = .ok sampleScript ∧
    (exec (buildFile .utf8 s (.ofString "s.mes")) sampleWorld).2.files.read (.ofString "s.mes") ≠
      .ok sampleScript := by
  refine ⟨{ Settings.default with rebuildDir := "." }, by cbv, by cbv, ?_⟩
  have h : (exec (buildFile .utf8 { Settings.default with rebuildDir := "." } (.ofString "s.mes"))
      sampleWorld).2.files.read (.ofString "s.mes") =
      .ok [1, 0, 0, 0, 9, 0, 0, 0x80, 7, 0, 1, 0xAB, 0, 0x10, 0, 0, 0x6B, 0x58, 0, 0x10, 0, 0] := by
    cbv
  rw [h]
  exact fun he => absurd (Except.ok.inj he) (by decide)

end Batch

end Dialogue
