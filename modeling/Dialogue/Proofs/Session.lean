import Dialogue.Proofs.Skeleton

/-!
# Sessions

A script is loaded and then edited any number of times. Imports change the script in place and
leave it as it was if they fail, because they are atomic (`Session.perform_cases`). So an edit
applies replacements or leaves the script alone (`Session.step_cases`), and whatever survives one
application of replacements survives every run: the script still agrees with its file
(`Script.Consistent`) and has the skeleton it was loaded with (`Script.SameSkeleton`).
-/

namespace Dialogue

/-! ## Scripts that agree with a file -/

namespace Script

open Relocation

/-- The assembly is that of the code, and the rows can be counted in a file. -/
structure Consistent (s : Script) : Prop where
  decode : Assembly.decode s.container.code = .ok s.assembly
  counted : s.container.rows.length < 0x100000000

theorem consistent_of_load {file : Bytes} {s : Script} (h : load file = .ok s) : s.Consistent :=
  ⟨(load_ok_iff.1 h).2, Container.length_rows_lt_of_parse (load_ok_iff.1 h).1⟩

section
variable {charset : Charset} {m : Replacements} {s s' : Script} {rep : RelocationReport}

theorem Consistent.load_save (h : s.Consistent) : load s.save = .ok s :=
  load_ok_iff.2 ⟨Container.parse_toBytes h.counted, h.decode⟩

theorem Consistent.exists_hasBlocks (h : s.Consistent) : ∃ hd blocks, s.HasBlocks hd blocks :=
  exists_hasBlocks_of_load h.load_save

theorem Consistent.of_apply (h : s.Consistent) (ha : s.apply charset m = .ok (s', rep)) :
    s'.Consistent := by
  obtain ⟨hd, blocks, hb⟩ := h.exists_hasBlocks
  obtain ⟨blocks', hr, hle, rfl⟩ := hb.exists_rebuilt_of_apply ha
  refine ⟨(hb.rebuilt hr hle).decode, ?_⟩
  rw [s.length_rows_withBlocks hd blocks']
  exact h.counted

theorem Consistent.sameSkeleton_of_apply (h : s.Consistent)
    (ha : s.apply charset m = .ok (s', rep)) : s.SameSkeleton s' := by
  obtain ⟨hd, blocks, hb⟩ := h.exists_hasBlocks
  obtain ⟨blocks', hr, hle, rfl⟩ := hb.exists_rebuilt_of_apply ha
  exact hb.sameSkeleton hr hle

/-- Relocation gives as many jump entries as there are rows, so no row is lost with them. -/
theorem Consistent.length_jumps_of_relocate (h : s.Consistent) {r : Relocated}
    (hr : relocate charset s.container s.assembly m = .ok r) :
    r.jumps.length = s.container.jumps.length := by
  obtain ⟨hd, blocks, hb⟩ := h.exists_hasBlocks
  obtain ⟨blocks', -, -, rfl⟩ := hb.relocate_ok_iff.1 hr
  exact length_patched ..

theorem exists_apply_of_importText {text : String}
    (h : s.importText charset text = .ok (s', rep)) :
    ∃ m, s.apply charset m = .ok (s', rep) := by
  rw [importText_eq] at h
  split at h
  · cases h
  · next m _ => exact ⟨m, h⟩

end

end Script

/-! ## Edits -/

structure Session where
  script : Script
  charset : Charset

inductive Edit where
  | importText (text : String)
  | apply (m : Replacements)
  /-- Import the script's own export. -/
  | reimport
  /-- Load the saved script. -/
  | reload
  | useCharset (charset : Charset)

namespace Session

/-- The session after a method of its script, also if that has failed. -/
def perform (t : Session) (x : Script.Method RelocationReport) : Session :=
  { t with script := (x.exec t.script).2 }

def step (t : Session) : Edit → Session
  | .importText text => t.perform (Script.importInPlace t.charset text)
  | .apply m => t.perform (Script.applyInPlace t.charset m)
  | .reimport =>
    match t.script.exportText t.charset with
    | .error _ => t
    | .ok units => t.perform (Script.importInPlace t.charset (Artifact.render units))
  | .reload =>
    match Script.load t.script.save with
    | .error _ => t
    | .ok s => { t with script := s }
  | .useCharset charset => { t with charset }

def run (t : Session) (edits : List Edit) : Session := edits.foldl step t

section
variable {t : Session}

theorem perform_cases {x : Script.Method RelocationReport} (hx : x.Atomic) :
    (t.perform x).script = t.script ∨ ∃ rep, x.result t.script = .ok ((t.perform x).script, rep) := by
  cases hr : x.result t.script with
  | error e => exact .inl (hx.left_of_error hr)
  | ok p =>
    obtain ⟨s, rep⟩ := p
    rw [perform, Script.Method.result_ok_iff.1 hr]
    exact .inr ⟨rep, rfl⟩

theorem perform_importInPlace_cases (text : String) :
    (t.perform (Script.importInPlace t.charset text)).script = t.script ∨ ∃ m rep,
      t.script.apply t.charset m =
        .ok ((t.perform (Script.importInPlace t.charset text)).script, rep) := by
  obtain h | ⟨rep, h⟩ := perform_cases (t := t) (Script.atomic_importInPlace t.charset text)
  · exact .inl h
  · obtain ⟨m, ha⟩ := Script.exists_apply_of_importText h
    exact .inr ⟨m, rep, ha⟩

/-- All that an edit can do to the script of a session. -/
theorem step_cases (hc : t.script.Consistent) (e : Edit) :
    (t.step e).script = t.script ∨
      ∃ m rep, t.script.apply t.charset m = .ok ((t.step e).script, rep) := by
  cases e with
  | importText text => exact perform_importInPlace_cases text
  | apply m =>
    obtain h | ⟨rep, h⟩ := perform_cases (t := t) (Script.atomic_applyInPlace t.charset m)
    · exact .inl h
    · exact .inr ⟨m, rep, h⟩
  | reimport =>
    rw [step]
    split
    · exact .inl rfl
    · exact perform_importInPlace_cases _
  | reload =>
    -- the script agrees with its file, so it comes back as it was
    rw [step, hc.load_save]
    exact .inl rfl
  | useCharset charset => exact .inl rfl

theorem consistent_step (hc : t.script.Consistent) (e : Edit) :
    (t.step e).script.Consistent := by
  obtain h | ⟨m, rep, ha⟩ := step_cases hc e
  · rwa [h]
  · exact hc.of_apply ha

theorem sameSkeleton_step (hc : t.script.Consistent) (e : Edit) :
    t.script.SameSkeleton (t.step e).script := by
  obtain h | ⟨m, rep, ha⟩ := step_cases hc e
  · rw [h]
    exact .refl t.script
  · exact hc.sameSkeleton_of_apply ha

theorem consistent_run (hc : t.script.Consistent) (edits : List Edit) :
    (t.run edits).script.Consistent := by
  induction edits generalizing t with
  | nil => exact hc
  | cons e edits ih => exact ih (consistent_step hc e)

theorem sameSkeleton_run (hc : t.script.Consistent) (edits : List Edit) :
    t.script.SameSkeleton (t.run edits).script := by
  induction edits generalizing t with
  | nil => exact .refl t.script
  | cons e edits ih => exact (sameSkeleton_step hc e).trans (ih (consistent_step hc e))

end

end Session

namespace Script

/-- The script after a run of edits that starts with the given charset. -/
def after (s : Script) (charset : Charset) (edits : List Edit) : Script :=
  (Session.run ⟨s, charset⟩ edits).script

/-- Whatever is done to a loaded script, it keeps the skeleton it was loaded with: version and
marker, auxiliary values, the number of instructions with their opcodes, kinds and extra blocks,
the bytes of everything that is no string load, the flags of its jumps, and for each jump to
an instruction the index of that instruction. -/
theorem sameSkeleton_after {file : Bytes} {s : Script} (hs : load file = .ok s)
    (charset : Charset) (edits : List Edit) : s.SameSkeleton (s.after charset edits) :=
  Session.sameSkeleton_run (t := ⟨s, charset⟩) (consistent_of_load hs) edits

/-- A text that gets longer, an artifact that cannot be read, a file that is written and read,
and an export that comes back in another charset. -/
def sampleEdits : List Edit :=
  [.apply sampleReplacements, .importText "◆00000003 no marker\n", .reload, .useCharset .utf8,
    .reimport]

/-- The code has changed, and the third entry still refers to the fourth instruction. -/
theorem sameSkeleton_after_sample :
    load sampleFile = .ok sample ∧
      (sample.after .shiftJis sampleEdits).container.code = sampleRebuilt ∧
      (sample.after .shiftJis sampleEdits).jumpIndex? 2 = some 3 := by
  have hk : sample.jumpIndex? 2 = some 3 := by cbv
  have hc : (sample.after .shiftJis sampleEdits).container.code = sampleRebuilt := by cbv
  have hs := sameSkeleton_after load_sampleFile .shiftJis sampleEdits
  exact ⟨load_sampleFile, hc, hs.jumpIndex 2 3 hk⟩

/-- Whatever is done to a loaded script, its two columns have one length and a relocation gives
it a column of that length, its assembly is that of its code, and its file loads as the
same script. -/
theorem load_save_after {file : Bytes} {s s' : Script} {charset : Charset} {edits : List Edit}
    (hs : load file = .ok s) (ha : s.after charset edits = s') :
    s'.container.jumps.length = s'.container.aux.length ∧
      (∀ (charset' : Charset) (m : Replacements) (r : Relocated),
        relocate charset' s'.container s'.assembly m = .ok r →
          r.jumps.length = s'.container.aux.length ∧
          (s'.container.replaceCode r.jumps r.code).jumps = r.jumps ∧
          (s'.container.replaceCode r.jumps r.code).aux = s'.container.aux) ∧
      Assembly.decode s'.container.code = .ok s'.assembly ∧
      load s'.save = .ok s' := by
  have hc : s'.Consistent := by
    rw [← ha]
    exact Session.consistent_run (t := ⟨s, charset⟩) (consistent_of_load hs) edits
  have hn : s'.container.jumps.length = s'.container.aux.length := by
    rw [Container.length_jumps, Container.length_aux]
  refine ⟨hn, ?_, hc.decode, hc.load_save⟩
  intro charset' m r hr
  have hl := hc.length_jumps_of_relocate hr
  exact ⟨hl.trans hn, Container.jumps_replaceCode hl, Container.aux_replaceCode hl⟩

/-- The file of the table that has followed, before the code that relocation built. -/
theorem load_save_after_sample :
    load sampleFile = .ok sample ∧
      load ([4, 0, 0, 0, 19, 0, 0, 0x80, 22, 0, 0, 0, 24, 0, 0, 0, 5, 0, 0, 0,
        1, 0, 2, 0, 3, 0, 4, 0] ++ sampleRebuilt) = .ok (sample.after .shiftJis sampleEdits) := by
  have hf : (sample.after .shiftJis sampleEdits).save =
      [4, 0, 0, 0, 19, 0, 0, 0x80, 22, 0, 0, 0, 24, 0, 0, 0, 5, 0, 0, 0,
        1, 0, 2, 0, 3, 0, 4, 0] ++ sampleRebuilt := by
    cbv
  have hl := (load_save_after load_sampleFile
    (Eq.refl (sample.after .shiftJis sampleEdits))).2.2.2
  rw [hf] at hl
  exact ⟨load_sampleFile, hl⟩

end Script

end Dialogue
