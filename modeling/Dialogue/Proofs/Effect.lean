import Dialogue.Proofs.Jobs
import Mathlib

/-!
# What a job leaves behind

A job that reports no file has changed none, whatever step it ended at. A job that reports a file
has put this file and changed no other (`FileSystem.Puts`), with a content that comes from what the
script and its text held before. Building makes folders as well, but only where nothing was, and
above the rebuilt file. So what was there is kept, and what is new is such a folder (`Puts.kept`,
`Puts.made`). `job_effect` says this of both jobs.
-/

namespace Dialogue

namespace FileSystem

/-- Where the path leads there is a file with this content, where no directory was. Everywhere else
there is what was there, or a directory where nothing was, to which a path of `Q` leads. -/
def Puts (Q : Path → Prop) (p : Path) (c : Bytes) (fs fs' : FileSystem) : Prop :=
  ∃ l, fs'.fileAt? p = some l ∧ fs'.node? l = some (.file c) ∧ fs.node? l ≠ some .dir ∧
    ∀ l' ≠ l, fs'.node? l' = fs.node? l' ∨
      (fs.node? l' = none ∧ ∃ q, Q q ∧ fs'.resolve q = .ok (l', .dir))

section
variable {Q : Path → Prop} {p : Path} {c : Bytes} {fs fs' : FileSystem} {l l' : Location}

/-- What is where the path leads, and what everywhere else. -/
theorem Puts.at_location (h : Puts Q p c fs fs') (hl : fs'.fileAt? p = some l) :
    fs'.node? l = some (.file c) ∧ ∀ l' ≠ l, fs'.node? l' = fs.node? l' ∨
      (fs.node? l' = none ∧ ∃ q, Q q ∧ fs'.resolve q = .ok (l', .dir)) := by
  obtain ⟨l₀, hl₀, hfile, -, hrest⟩ := h
  rw [hl] at hl₀
  cases hl₀
  exact ⟨hfile, hrest⟩

theorem Puts.kept {n : Node} (h : Puts Q p c fs fs') (hl : fs'.fileAt? p = some l) (hne : l' ≠ l)
    (hn : fs.node? l' = some n) : fs'.node? l' = some n := by
  obtain he | ⟨hnone, -⟩ := (h.at_location hl).2 l' hne
  · rw [he, hn]
  · rw [hn] at hnone
    cases hnone

theorem Puts.made {n : Node} (h : Puts Q p c fs fs') (hl : fs'.fileAt? p = some l) (hne : l' ≠ l)
    (hnone : fs.node? l' = none) (hn : fs'.node? l' = some n) :
    ∃ q, Q q ∧ fs'.resolve q = .ok (l', .dir) := by
  obtain he | ⟨-, hdir⟩ := (h.at_location hl).2 l' hne
  · rw [he, hnone] at hn
    cases hn
  · exact hdir

end

theorem Changes.puts {Q : Path → Prop} {p : Path} {c : Bytes} {fs fs' fs'' : FileSystem}
    (h : Changes Q [] fs fs') (hw : fs'.write p c = .ok fs'') : Puts Q p c fs fs'' := by
  obtain ⟨l, hch, ha, hread⟩ := exists_changes_of_write hw
  obtain ⟨l', ha', hn⟩ := read_ok_iff.1 hread
  rw [ha] at ha'
  cases ha'
  have hall := h.trans hch
  have hl : l ∈ [] ++ [l] := by simp
  exact ⟨l, ha, hn, (hall.written l hl).1, fun l' hl' => hall.kept_or_made (by simpa using hl')⟩

end FileSystem

namespace Batch

open World

/-- What a job does to files. An export that reports no file leaves the files as they were, and such
a build leaves every regular file as it was. An export that reports a file has put the text of the
script at its text path and done nothing else. A build that reports a file has put the script with
the text from its text path at its rebuild path, and otherwise made folders above this path. -/
theorem job_effect (charset : Charset) (s : Settings) (path : Path) (w : World) :
    (∀ r w', exec (exportFile charset s path) w = (r, w') →
      ((∀ out, r ≠ .ok (.written out)) → w'.files = w.files) ∧
      ∀ out, r = .ok (.written out) → textPath s path = some out ∧
        ∃ bytes script units, w.files.read path = .ok bytes ∧ Script.load bytes = .ok script ∧
          script.exportText charset = .ok units ∧
          w.files.Puts (fun _ => False) out (Bytes.ofText (Artifact.render units)) w'.files) ∧
    ∀ r w', exec (buildFile charset s path) w = (r, w') →
      ((∀ out, r ≠ .ok (.written out)) → ∀ l c,
        w'.files.node? l = some (.file c) ↔ w.files.node? l = some (.file c)) ∧
      ∀ out, r = .ok (.written out) → rebuildPath s path = .ok out ∧
        ∃ bytes script textFile text rebuilt report, w.files.read path = .ok bytes ∧
          Script.load bytes = .ok script ∧ textPath s path = some textFile ∧
          w.files.readText textFile = .ok text ∧
          script.importText charset text = .ok (rebuilt, report) ∧
          w.files.Puts (·.Above out) out rebuilt.save w'.files := by
  constructor
  · intro r w' h
    obtain ⟨he, hno, -⟩ | ⟨bytes, script, units, out, rfl, ht, hread, hload, hunits, hwr⟩ :=
      exportFile_cases h
    · exact ⟨fun _ => he, fun out hr => absurd hr (hno out)⟩
    · refine ⟨fun hno => absurd rfl (hno out), ?_⟩
      rintro _ ⟨⟩
      exact ⟨ht, bytes, script, units, hread, hload, hunits,
        (FileSystem.Changes.refl w.files).puts hwr⟩
  · intro r w' h
    obtain ⟨hch, hno, -⟩ | ⟨textFile, bytes, script, text, rebuilt, report, out, fs, rfl, ht, hread,
      hload, htext, himp, hp, hch, hwr⟩ := buildFile_cases h
    · exact ⟨fun _ l c => hch.file_iff List.not_mem_nil, fun out hr => absurd hr (hno out)⟩
    · refine ⟨fun hno => absurd rfl (hno out), ?_⟩
      rintro _ ⟨⟩
      have habove : ∀ p, AboveRebuilt s path p → p.Above out := by
        rintro p ⟨out', hp', ha⟩
        rw [hp] at hp'
        cases hp'
        exact ha
      exact ⟨hp, bytes, script, textFile, text, rebuilt, report, hread, hload, ht, htext, himp,
        (hch.mono habove).puts hwr⟩

/-- Building makes the rebuild folder, exporting writes over the text that was there, and a text that
is exported as if it were a script leaves the files alone. -/
theorem job_effect_sample :
    (∃ w', exec (buildFile .utf8 .default (.ofString "s.mes")) sampleWorld =
        (.ok (.written (.ofString "rebuild/s.mes")), w') ∧
      (∃ c, w'.files.node? [Bytes.ofText "rebuild", Bytes.ofText "s.mes"] = some (.file c)) ∧
      w'.files.node? [Bytes.ofText "s.mes"] = some (.file sampleScript) ∧
      ∃ p : Path, p.Above (.ofString "rebuild/s.mes") ∧
        w'.files.resolve p = .ok ([Bytes.ofText "rebuild"], .dir)) ∧
    (∃ w', exec (exportFile .utf8 .default (.ofString "s.mes")) sampleWorld =
        (.ok (.written (.ofString "s.txt")), w') ∧
      w'.files.node? [Bytes.ofText "s.txt"] =
        some (.file (Bytes.ofText "◇00000006◇Hi\n◆00000006◆Hi\n\n")) ∧
      w'.files.node? [Bytes.ofText "s.mes"] = some (.file sampleScript)) ∧
    ∃ e w', exec (exportFile .utf8 .default (.ofString "s.txt")) sampleWorld = (.error e, w') ∧
      w'.files = sampleWorld.files := by
  have hthere : sampleWorld.files.node? [Bytes.ofText "s.mes"] = some (.file sampleScript) := by cbv
  obtain ⟨hexport, hbuild⟩ := job_effect .utf8 .default (.ofString "s.mes") sampleWorld
  refine ⟨?_, ?_, ?_⟩
  · have hjob : (exec (buildFile .utf8 .default (.ofString "s.mes")) sampleWorld).1 =
        .ok (.written (.ofString "rebuild/s.mes")) := by
      cbv
    have hat : (exec (buildFile .utf8 .default (.ofString "s.mes")) sampleWorld).2.files.fileAt?
        (.ofString "rebuild/s.mes") = some [Bytes.ofText "rebuild", Bytes.ofText "s.mes"] := by
      cbv
    have hfolder : (exec (buildFile .utf8 .default (.ofString "s.mes")) sampleWorld).2.files.node?
        [Bytes.ofText "rebuild"] = some .dir := by
      cbv
    have hnone : sampleWorld.files.node? [Bytes.ofText "rebuild"] = none := by cbv
    generalize hx : exec (buildFile .utf8 .default (.ofString "s.mes")) sampleWorld = x
      at hjob hat hfolder
    obtain ⟨r, w'⟩ := x
    obtain rfl : r = _ := hjob
    obtain ⟨-, _, _, _, _, _, _, -, -, -, -, -, hputs⟩ := (hbuild _ w' hx).2 _ rfl
    exact ⟨w', rfl, ⟨_, (hputs.at_location hat).1⟩, hputs.kept hat (by decide) hthere,
      hputs.made hat (by decide) hnone hfolder⟩
  · have hjob : (exec (exportFile .utf8 .default (.ofString "s.mes")) sampleWorld).1 =
        .ok (.written (.ofString "s.txt")) := by
      cbv
    have hat : (exec (exportFile .utf8 .default (.ofString "s.mes")) sampleWorld).2.files.fileAt?
        (.ofString "s.txt") = some [Bytes.ofText "s.txt"] := by
      cbv
    have hbytes : sampleWorld.files.read (.ofString "s.mes") = .ok sampleScript := by cbv
    have htext : (Script.load sampleScript).toOption.bind (fun script =>
        (script.exportText .utf8).toOption) = some [⟨6, "Hi"⟩] := by
      cbv
    generalize hx : exec (exportFile .utf8 .default (.ofString "s.mes")) sampleWorld = x at hjob hat
    obtain ⟨r, w'⟩ := x
    obtain rfl : r = _ := hjob
    obtain ⟨-, bytes, script, units, hread, hload, hunits, hputs⟩ := (hexport _ w' hx).2 _ rfl
    rw [hbytes] at hread
    cases hread
    rw [hload, Except.toOption, Option.bind_some, hunits] at htext
    cases htext
    have hrender : Artifact.render [⟨6, "Hi"⟩] = "◇00000006◇Hi\n◆00000006◆Hi\n\n" := by cbv
    rw [hrender] at hputs
    exact ⟨w', rfl, (hputs.at_location hat).1, hputs.kept hat (by decide) hthere⟩
  · obtain ⟨hfailing, -⟩ := job_effect .utf8 .default (.ofString "s.txt") sampleWorld
    have hbad : ∃ e, (exec (exportFile .utf8 .default (.ofString "s.txt")) sampleWorld).1 =
        .error e := ⟨_, by cbv⟩
    generalize hx : exec (exportFile .utf8 .default (.ofString "s.txt")) sampleWorld = x at hbad
    obtain ⟨r, w'⟩ := x
    obtain ⟨e, rfl⟩ := hbad
    exact ⟨e, w', rfl, (hfailing _ w' hx).1 (by simp)⟩

end Batch

end Dialogue
