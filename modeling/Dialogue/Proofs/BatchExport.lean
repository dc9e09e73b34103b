import Dialogue.Proofs.Batch
import Dialogue.Proofs.Collect
import Dialogue.Proofs.Path
import Mathlib

/-!
# Exporting all scripts at a path

Exporting writes text files only, so a file is lost only if it is itself the text file of a script
that was exported (`exportAll_keeps`). A text file holds the text of the script it was written for
unless a later script has the same one.
-/

namespace Dialogue.Batch

open World

/-- Export every script at a path. -/
def exportAll (charset : Charset) (s : Settings) (path : Path) :
    ExceptT Failure (StateM World) Summary := do
  let files ← collect path s.scriptExtension
  run (exportFile charset s) files

/-- The file at `out` holds the text of the script that was at `path`. -/
def HoldsText (charset : Charset) (fs fs' : FileSystem) (path out : Path) : Prop :=
  ∃ bytes script units, fs.read path = .ok bytes ∧ Script.load bytes = .ok script ∧
    script.exportText charset = .ok units ∧
    fs'.read out = .ok (Bytes.ofText (Artifact.render units))

variable {charset : Charset} {s : Settings} {path : Path} {w w' : World}

theorem textPath_ne_none (hs : '/' ∉ s.textExtension.toList) (p : Path) : textPath s p ≠ none :=
  Path.withExtension_ne_none (mt Path.slash_mem_ofText_iff.1 hs)

theorem exportFile_ne_crash (hs : '/' ∉ s.textExtension.toList) (p : Path) (w : World) :
    (exec (exportFile charset s p) w).1 ≠ .error .crash := by
  intro h
  obtain ⟨-, -, hc⟩ | ⟨_, _, _, _, hr, -⟩ := exportFile_cases (Prod.eta _).symm
  · exact textPath_ne_none hs p (hc h)
  · rw [h] at hr
    cases hr

theorem holdsText_of_turn {out : Path}
    (h : Turn (exportFile charset s) w path (.ok (.written out)) w') :
    textPath s path = some out ∧ HoldsText charset w.files w'.files path out := by
  obtain ⟨w₀, hj, rfl⟩ := h
  obtain ⟨-, hr, -⟩ | ⟨bytes, script, units, _, hr, ht, hread, hload, hunits, hwr⟩ :=
    exportFile_cases hj
  · exact absurd rfl (hr out)
  · cases hr
    obtain ⟨_, -, -, hout⟩ := FileSystem.exists_extends_of_write hwr
    exact ⟨ht, bytes, script, units, hread, hload, hunits, hout⟩

/-- A script that no text was written over before its turn is exported as it was, and its text file
stays as it is unless a later text is written over it. -/
theorem Ran.holdsText {before after : List (Path × Except ToolError Outcome)} {out : Path}
    (h : Ran (exportFile charset s) w (before ++ (path, .ok (.written out)) :: after) w')
    (hp : before = [] ∨ ∃ c, w.files.read path = .ok c)
    (hb : ∀ o, Writes before o → w'.files.fileAt? o ≠ w'.files.fileAt? path)
    (ha : ∀ o, Writes after o → w'.files.fileAt? o ≠ w'.files.fileAt? out) :
    textPath s path = some out ∧ HoldsText charset w.files w'.files path out := by
  have hj := confined_exportFile charset s
  obtain ⟨w₁, hbefore, hrest⟩ := ran_append_iff.1 h
  have hrestOnly := hrest.writesOnly hj
  obtain _ | ⟨hturn, hafter⟩ := hrest
  obtain ⟨ht, bytes, script, units, hread, hload, hunits, hout⟩ := holdsText_of_turn hturn
  have horig : w.files.read path = .ok bytes := by
    obtain rfl | ⟨c, hc⟩ := hp
    · cases hbefore
      exact hread
    · have hkept : w₁.files.read path = .ok c := by
        refine (hbefore.writesOnly hj).read_eq hc fun o ho he => hb o ho ?_
        -- Where the two paths lead at this turn they still lead at the end.
        obtain ⟨l, hl, -⟩ := FileSystem.read_ok_iff.1 hread
        rw [hrestOnly.fileAt?_eq hl, hrestOnly.fileAt?_eq (he.trans hl)]
      rw [hc, ← hkept, hread]
  exact ⟨ht, bytes, script, units, horig, hload, hunits, (hafter.writesOnly hj).read_eq hout ha⟩

/-- After exporting all scripts at a path, every file that is not the text file of an exported
script has its bytes, and for every exported script that no text was written over before its turn,
the text file holds its text, unless that is also the text file of a script exported later. -/
theorem exportAll_keeps {r : Except Failure Summary} (hs : '/' ∉ s.textExtension.toList)
    (h : exec (exportAll charset s path) w = (r, w')) :
    (w' = w ∧ ∃ e, exec (collect path s.scriptExtension) w = (.error (.error e), w) ∧
        r = .error (.error e)) ∨
      ∃ rs, exec (collect path s.scriptExtension) w = (.ok (rs.map (·.1)), w) ∧
        Ran (exportFile charset s) w rs w' ∧ r = .ok (.of rs) ∧
        (∀ p c, w.files.read p = .ok c →
          (∀ out, Writes rs out → w'.files.fileAt? out ≠ w'.files.fileAt? p) →
          w'.files.read p = .ok c) ∧
        ∀ before p out after, rs = before ++ (p, .ok (.written out)) :: after →
          (∀ o, Writes before o → w'.files.fileAt? o ≠ w'.files.fileAt? p) →
          (∀ o, Writes after o → w'.files.fileAt? o ≠ w'.files.fileAt? out) →
          textPath s p = some out ∧ HoldsText charset w.files w'.files p out := by
  obtain ⟨files, w₁, hcol, hrun⟩ | ⟨e, hcol, rfl⟩ := exec_bind_cases h
  · obtain ⟨rfl, hfiles⟩ := collect_cases hcol
    obtain ⟨rs, hran, rfl, rfl⟩ := run_cases (fun p _ w => exportFile_ne_crash hs p w) hrun
    refine .inr ⟨rs, hcol, hran, rfl, fun p c hc hne => ?_, ?_⟩
    · exact (hran.writesOnly (confined_exportFile charset s)).read_eq hc hne
    · rintro before p out after rfl hb ha
      refine hran.holdsText ?_ hb ha
      obtain ⟨_, ⟨⟩⟩ | hone | ⟨_, ⟨⟩, hkind⟩ := hfiles
      · -- A path that is no folder is the only one, so nothing was exported before it.
        left
        have hone := Except.ok.inj hone
        cases before with
        | nil => rfl
        | cons first before => simp at hone
      · exact .inr (FileSystem.exists_read_of_kind? (hkind p (by simp)))
  · obtain ⟨rfl, ⟨e', ⟨⟩⟩ | ⟨⟨⟩⟩ | ⟨_, ⟨⟩, -⟩⟩ := collect_cases hcol
    exact .inl ⟨rfl, e', hcol, rfl⟩

theorem exportAll_keeps_sample :
    ∃ w', exec (exportAll .utf8 .default (.ofString ".")) sampleWorld = (.ok ⟨1, 0, []⟩, w') ∧
      w'.files.read (.ofString "s.mes") = .ok sampleScript ∧
      HoldsText .utf8 sampleWorld.files w'.files (.ofString "s.mes") (.ofString "s.txt") := by
  have hread : sampleWorld.files.read (.ofString "s.mes") = .ok sampleScript := by cbv
  have hcol : (exec (collect (.ofString ".") Settings.default.scriptExtension) sampleWorld).1 =
      .ok [.ofString "s.mes"] := by
    cbv
  have hjob : (exec (exportFile .utf8 .default (.ofString "s.mes")) sampleWorld).1 =
      .ok (.written (.ofString "s.txt")) := by
    cbv
  obtain ⟨hsum, hscript, htext⟩ :
      (exec (exportAll .utf8 .default (.ofString ".")) sampleWorld).1 = .ok ⟨1, 0, []⟩ ∧
        (exec (exportAll .utf8 .default (.ofString ".")) sampleWorld).2.files.fileAt?
          (.ofString "s.mes") = some [Bytes.ofText "s.mes"] ∧
        (exec (exportAll .utf8 .default (.ofString ".")) sampleWorld).2.files.fileAt?
          (.ofString "s.txt") = some [Bytes.ofText "s.txt"] := by
    cbv
  generalize hw : exec (exportAll .utf8 .default (.ofString ".")) sampleWorld = x at *
  obtain ⟨r, w'⟩ := x
  have hr : r = .ok ⟨1, 0, []⟩ := hsum
  subst hr
  obtain ⟨-, e, -, he⟩ | ⟨rs, hc, hran, -, hkeep, hholds⟩ := exportAll_keeps (by decide) hw
  · cases he
  · rw [hc] at hcol
    have hrs := hran.eq_singleton (Except.ok.inj hcol) hjob
    subst hrs
    refine ⟨w', rfl, hkeep _ _ hread ?_, (hholds [] _ _ [] rfl ?_ ?_).2⟩
    · rintro out ⟨file, hm⟩
      cases List.mem_singleton.1 hm
      dsimp only at hscript htext
      rw [hscript, htext]
      decide
    · rintro o ⟨_, ⟨⟩⟩
    · rintro o ⟨_, ⟨⟩⟩

/-- Two scripts whose names differ in case only. -/
def sampleTwins : World where
  files := {
    entries := [([Bytes.ofText "s.MES"], .file sampleScript),
      ([Bytes.ofText "s.mes"], .file
        [1, 0, 0, 0, 9, 0, 0, 0x80, 7, 0, 1, 0xAB, 0, 0x10, 0, 0, 0x6B, 0x58, 0, 0x10, 0, 0])]
    workDir := [] }

/-- An export loses scripts whose extension is that of texts, and a text that is also the text of a
later script. -/
theorem not_exportAll_keeps :
    (∃ s, Settings.parse "text_extension = \"mes\"" = .ok s ∧ '/' ∉ s.textExtension.toList ∧
      (exec (collect (.ofString ".") s.scriptExtension) sampleWorld).1 = .ok [.ofString "s.mes"] ∧
      sampleWorld.files.read (.ofString "s.mes") = .ok sampleScript ∧
      (exec (exportAll .utf8 s (.ofString ".")) sampleWorld).2.files.read (.ofString "s.mes") ≠
        .ok sampleScript) ∧
    (exec (exportFile .utf8 .default (.ofString "s.MES")) sampleTwins).1 =
      .ok (.written (.ofString "s.txt")) ∧
    (exec (exportAll .utf8 .default (.ofString ".")) sampleTwins).1 = .ok ⟨2, 0, []⟩ ∧
    ¬ HoldsText .utf8 sampleTwins.files
      (exec (exportAll .utf8 .default (.ofString ".")) sampleTwins).2.files
      (.ofString "s.MES") (.ofString "s.txt") := by
  refine ⟨⟨{ Settings.default with textExtension := "mes" }, by cbv, by decide, by cbv, by cbv, ?_⟩,
    by cbv, by cbv, ?_⟩
  · have h : (exec (exportAll .utf8 { Settings.default with textExtension := "mes" }
        (.ofString ".")) sampleWorld).2.files.read (.ofString "s.mes") =
        .ok (Bytes.ofText "◇00000006◇Hi\n◆00000006◆Hi\n\n") := by
      cbv
    rw [h]
    exact fun he => absurd (Except.ok.inj he) (by decide)
  · rintro ⟨bytes, script, units, hread, hload, hunits, hout⟩
    have hbytes : sampleTwins.files.read (.ofString "s.MES") = .ok sampleScript := by cbv
    have htext : (Script.load sampleScript).toOption.bind (fun script =>
        (script.exportText .utf8).toOption) = some [⟨6, "Hi"⟩] := by
      cbv
    have hlast : (exec (exportAll .utf8 .default (.ofString ".")) sampleTwins).2.files.read
        (.ofString "s.txt") = .ok (Bytes.ofText "◇00000006◇x\n◆00000006◆x\n\n") := by
      cbv
    rw [hbytes] at hread
    cases hread
    rw [hload, Except.toOption, Option.bind_some, hunits] at htext
    cases htext
    rw [hlast] at hout
    exact absurd (Except.ok.inj hout) (by decide)

end Dialogue.Batch
