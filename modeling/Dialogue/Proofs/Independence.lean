import Dialogue.Proofs.BatchExport
import Dialogue.Proofs.Walk
import Mathlib

/-!
# Files of one batch and each other

Exporting a file only writes its text file, and only into a folder that was there: the folder of the
file itself (`hasFolder_textPath`). So as long as no text file is one of the files, each of them
comes to the same whatever was exported before it (`Ran.result_eq`), and a batch to what its files
come to one by one (`run_independent`).
-/

namespace Dialogue

namespace FileSystem

/-! ## Files over files -/

/-- Files were written at some locations, and nothing else was made. -/
structure Overlays (ls : List Location) (fs fs' : FileSystem) : Prop extends
    Extends ls fs fs' where
  dir_of : ∀ l : Location, fs'.node? l = some .dir → fs.node? l = some .dir

/-- The folder that a path names something in is there. -/
def HasFolder (fs : FileSystem) (p : Path) : Prop :=
  ∃ init name d, steps p = init ++ [name] ∧ fs.walk (fs.start p) init = .ok d ∧
    fs.node? d = some .dir

section
variable {ls ls' : List Location} {fs fs' fs'' : FileSystem} {p : Path} {l : Location} {c : Bytes}

theorem Overlays.refl (fs : FileSystem) : Overlays [] fs fs where
  toExtends := .refl fs
  dir_of _ h := h

theorem Overlays.trans (h : Overlays ls fs fs') (h' : Overlays ls' fs' fs'') :
    Overlays (ls ++ ls') fs fs'' where
  toExtends := h.toExtends.trans h'.toExtends
  dir_of l hl := h.dir_of l (h'.dir_of l hl)

theorem Overlays.dir_iff (h : Overlays ls fs fs') :
    fs'.node? l = some .dir ↔ fs.node? l = some .dir :=
  ⟨h.dir_of l, h.dir⟩

theorem exists_overlays_of_write (h : fs.write p c = .ok fs') :
    ∃ l, Overlays [l] fs fs' ∧ fs'.fileAt? p = some l ∧ fs'.read p = .ok c := by
  obtain ⟨l, hext, ha, hread⟩ := exists_extends_of_write h
  exact ⟨l, ⟨hext, fun _ => dir_of_write h⟩, ha, hread⟩

theorem Overlays.place_eq (h : Overlays ls fs fs') (hp : fs.HasFolder p) :
    fs'.place p = fs.place p := by
  obtain ⟨init, name, d, hs, hw, hd⟩ := hp
  have hw' : fs'.walk (fs'.start p) init = .ok d := h.start_eq p ▸ h.walk_ok hw
  unfold place
  rw [hs, List.dropLast_concat, List.getLast?_concat, hw, hw']
  cases fault? p with
  | some e => rfl
  | none => simp [hd, h.dir hd]

/-- Writing into a folder that was there goes as it would have gone before. -/
theorem Overlays.write_cases (h : Overlays ls fs fs') (hp : fs.HasFolder p) (c : Bytes) :
    (∃ g g', fs.write p c = .ok g ∧ fs'.write p c = .ok g') ∨
      ∃ e, fs.write p c = .error e ∧ fs'.write p c = .error e := by
  unfold write
  rw [h.place_eq hp]
  split
  · exact .inr ⟨_, rfl, rfl⟩
  · exact .inr ⟨_, rfl, rfl⟩
  · next d name _ =>
    simp only [h.dir_iff]
    split
    · exact .inr ⟨_, rfl, rfl⟩
    · exact .inl ⟨_, _, rfl, rfl⟩

/-- A path into a folder that was there, to a location where a file was, led there before. -/
theorem Overlays.fileAt?_of_file (h : Overlays ls fs fs') (hp : fs.HasFolder p)
    (hl : fs'.fileAt? p = some l) (hn : fs.node? l = some (.file c)) :
    fs.fileAt? p = some l := by
  obtain ⟨init, name, d, hs, hw, hd⟩ := hp
  obtain ⟨c', hr⟩ := fileAt?_eq_some_iff.1 hl
  obtain ⟨hf, hwd, hw', -⟩ := resolve_file_iff.1 hr
  rw [hs, h.start_eq, walk_append_ok_iff] at hw'
  obtain ⟨d', hd', hlast⟩ := hw'
  rw [h.walk_ok hw] at hd'
  cases hd'
  obtain ⟨m, hm, hend⟩ := walk_cons_ok_iff.1 hlast
  cases hend
  have hm' : fs.Moves d name l := by
    cases hm with
    | here _ => exact .here hd
    | up _ => exact .up hd
    | down _ hh hu hlen _ => exact .down hd hh hu hlen hn
  refine fileAt?_eq_some_iff.2 ⟨c, resolve_file_iff.2 ⟨hf, hwd, ?_, hn⟩⟩
  rw [hs, walk_append_ok_iff]
  exact ⟨d, hw, walk_cons_ok_iff.2 ⟨l, hm', rfl⟩⟩

/-! ## Folders of files -/

/-- What has the path of a file but for the extension is in the folder of the file. -/
theorem hasFolder_withExtension {ext : Bytes} {out : Path} (hl : fs.fileAt? p = some l)
    (h : p.withExtension ext = some out) : fs.HasFolder out := by
  obtain ⟨c, hr⟩ := fileAt?_eq_some_iff.1 hl
  obtain ⟨hfault, hwd, hw, hn⟩ := resolve_file_iff.1 hr
  obtain ⟨bs⟩ := p
  obtain ⟨front, n, rfl, hfront, hslash⟩ := Path.exists_front bs
  have hne : n ≠ [] := by
    rintro rfl
    rw [List.append_nil] at hfault hwd
    rcases hfront with rfl | ⟨f, rfl⟩
    · cases hfault
    · simp [wantsDir] at hwd
  obtain ⟨absolute, init, hsteps⟩ := steps_append hfront
  obtain ⟨habs, hs⟩ := hsteps n hslash hne
  rw [hs, walk_append_ok_iff] at hw
  obtain ⟨d, hw, hlast⟩ := hw
  obtain ⟨m, hm, hend⟩ := walk_cons_ok_iff.1 hlast
  cases hend
  have hd := hm.isDir
  have hmove : Path.isMove n := by
    have hhere : n ≠ here := by
      rintro rfl
      cases hm with
      | here hd =>
        rw [hd] at hn
        cases hn
      | down _ hh _ _ _ => exact absurd rfl hh
    simpa [Path.isMove, here] using ⟨hne, hhere⟩
  obtain ⟨m, hmne, hmslash, rfl⟩ := Path.withExtension_append hfront hslash hmove h
  obtain ⟨habs', hs'⟩ := hsteps m hmslash hmne
  have hstart : fs.start (Path.mk (front ++ m)) = fs.start (Path.mk (front ++ n)) := by
    rw [start, start, habs, habs']
  exact ⟨init, m, d, hs', by rw [hstart, hw], hd⟩

end

end FileSystem

namespace Batch

open World

variable {charset : Charset} {s : Settings} {path : Path} {w w₀ w₁ w' : World} {files : List Path}
  {rs : List (Path × Except ToolError Outcome)}

/-! ## One file -/

theorem loadScript_congr (h : w₁.files.read path = w.files.read path) :
    (exec (loadScript path) w₁).1 = (exec (loadScript path) w).1 := by
  rw [loadScript, exec_ask_bind, exec_ask_bind, read_apply, read_apply, h]
  cases w.files.read path with
  | error e => rfl
  | ok bytes =>
    dsimp only [attempt]
    rw [pure_bind, exec_report_bind, exec_report_bind]
    cases Script.load bytes <;> rfl

/-- What exporting a file comes to depends on what the file holds and on how the writing goes. -/
theorem exportFile_congr (hread : w₁.files.read path = w.files.read path)
    (hwrite : ∀ out c, textPath s path = some out →
      (∃ g g', w.files.write out c = .ok g ∧ w₁.files.write out c = .ok g') ∨
        ∃ e, w.files.write out c = .error e ∧ w₁.files.write out c = .error e) :
    (exec (exportFile charset s path) w₁).1 = (exec (exportFile charset s path) w).1 := by
  have hload := loadScript_congr hread
  rw [exportFile, exec_bind, exec_bind]
  generalize hx : exec (loadScript path) w = x at hload
  generalize hx₁ : exec (loadScript path) w₁ = x₁ at hload
  obtain ⟨r, v⟩ := x
  obtain ⟨r₁, v₁⟩ := x₁
  have hfiles : v.files = w.files := (loadScript_cases hx).1
  have hfiles₁ : v₁.files = w₁.files := (loadScript_cases hx₁).1
  have hr : r₁ = r := hload
  subst hr
  cases r₁ with
  | error e => rfl
  | ok script =>
    dsimp only
    cases script.exportText charset with
    | error e => rfl
    | ok units =>
      dsimp only
      split
      · rfl
      · unfold textPathOf
        cases ht : textPath s path with
        | none => rfl
        | some out =>
          dsimp only
          rw [pure_bind, exec_ask_bind, exec_ask_bind, write_apply, write_apply, update, update,
            hfiles, hfiles₁]
          obtain ⟨g, g', hg, hg'⟩ | ⟨e, he, he'⟩ :=
            hwrite out (Bytes.ofText (Artifact.render units)) ht
          · rw [hg, hg']
            rfl
          · rw [he, he']
            rfl

/-! ## All files -/

/-- No text file is one of the files. -/
def Apart (s : Settings) (fs : FileSystem) (files : List Path) : Prop :=
  ∀ f ∈ files, ∀ g ∈ files, ∀ out, textPath s f = some out → fs.fileAt? out ≠ fs.fileAt? g

/-- Files were written, but none of those in the list. -/
def Spared (files : List Path) (fs fs' : FileSystem) : Prop :=
  ∃ ls, FileSystem.Overlays ls fs fs' ∧ ∀ l ∈ ls, ∀ f ∈ files, fs.fileAt? f ≠ some l

theorem Spared.read_eq {fs fs' : FileSystem} {c : Bytes} (h : Spared files fs fs')
    (hf : path ∈ files) (hr : fs.read path = .ok c) : fs'.read path = .ok c := by
  obtain ⟨ls, hover, hls⟩ := h
  refine hover.toExtends.read_eq hr fun l hl ha => ?_
  obtain ⟨l', hl', -⟩ := FileSystem.read_ok_iff.1 hr
  rw [hover.toExtends.fileAt?_eq hl'] at ha
  exact hls l hl path hf (hl'.trans ha)

/-- Exporting one of the files goes as it would have gone at first, and leaves the others alone. -/
theorem Spared.turn {r : Except ToolError Outcome}
    (hread : ∀ f ∈ files, ∃ c, w.files.read f = .ok c) (hap : Apart s w.files files)
    (h : Spared files w.files w₀.files) (hf : path ∈ files)
    (ht : Turn (exportFile charset s) w₀ path r w₁) :
    Spared files w.files w₁.files ∧
      (exec (exportFile charset s path) w).1 = r.mapError .error := by
  obtain ⟨c, hc⟩ := hread path hf
  have hkept := h.read_eq hf hc
  obtain ⟨l, hl, -⟩ := FileSystem.read_ok_iff.1 hc
  obtain ⟨ls, hover, hls⟩ := h
  obtain ⟨v, hj, rfl⟩ := ht
  have hfolder (out : Path) (hout : textPath s path = some out) : w.files.HasFolder out :=
    FileSystem.hasFolder_withExtension hl hout
  constructor
  · obtain ⟨hv, -⟩ | ⟨_, _, _, out, -, hout, -, -, -, hwr⟩ := exportFile_cases hj
    · exact ⟨ls, hv ▸ hover, hls⟩
    · obtain ⟨lout, hstep, hat, -⟩ := FileSystem.exists_overlays_of_write hwr
      have hboth := hover.trans hstep
      refine ⟨ls ++ [lout], hboth, fun l' hl' g hg hgat => ?_⟩
      rcases List.mem_append.1 hl' with hm | hm
      · exact hls l' hm g hg hgat
      · -- A text file at the place of a listed file would have been there at first.
        rw [List.mem_singleton.1 hm] at hgat
        obtain ⟨cg, hcg⟩ := FileSystem.fileAt?_eq_some_iff.1 hgat
        have hnode := (FileSystem.resolve_file_iff.1 hcg).2.2.2
        have hback := hboth.fileAt?_of_file (hfolder out hout) hat hnode
        exact hap path hf g hg out hout (hback.trans hgat.symm)
  · have hcongr : (exec (exportFile charset s path) w₀).1 =
        (exec (exportFile charset s path) w).1 :=
      exportFile_congr (hkept.trans hc.symm) fun out c hout =>
        hover.write_cases (hfolder out hout) c
    rw [← hcongr, hj]

theorem Ran.result_eq (hread : ∀ f ∈ files, ∃ c, w.files.read f = .ok c)
    (hap : Apart s w.files files) (h : Spared files w.files w₀.files)
    (hran : Ran (exportFile charset s) w₀ rs w') (hrs : ∀ p ∈ rs, p.1 ∈ files) :
    Spared files w.files w'.files ∧
      ∀ p ∈ rs, (exec (exportFile charset s p.1) w).1 = p.2.mapError .error := by
  induction hran with
  | nil w => exact ⟨h, fun _ hp => absurd hp List.not_mem_nil⟩
  | @cons w₀ w₁ w' file r rs ht _ ih =>
    obtain ⟨hspared, hresult⟩ := h.turn hread hap (hrs _ List.mem_cons_self) ht
    obtain ⟨hend, hresults⟩ := ih hspared fun p hp => hrs p (List.mem_cons_of_mem _ hp)
    exact ⟨hend, List.forall_mem_cons.2 ⟨hresult, hresults⟩⟩

/-- Where a text file is, no script of the list is, also after the run. -/
theorem Ran.fileAt?_ne {out : Path} (hread : ∀ f ∈ files, ∃ c, w.files.read f = .ok c)
    (hap : Apart s w.files files) (h : Spared files w.files w'.files)
    (hran : Ran (exportFile charset s) w rs w₁) (hrs : ∀ p ∈ rs, p.1 ∈ files)
    (ho : Writes rs out) (hf : path ∈ files) : w'.files.fileAt? out ≠ w'.files.fileAt? path := by
  obtain ⟨f, hmem⟩ := ho
  have hlisted : f ∈ files := hrs _ hmem
  have hspared : Spared files w.files w.files :=
    ⟨[], .refl _, fun _ hl => absurd hl List.not_mem_nil⟩
  have hresult := (hran.result_eq hread hap hspared hrs).2 _ hmem
  have hout : textPath s f = some out := by
    have hjob : exec (exportFile charset s f) w =
        (.ok (.written out), (exec (exportFile charset s f) w).2) := Prod.ext hresult rfl
    obtain ⟨-, hno, -⟩ | ⟨_, _, _, _, hr, ht, -⟩ := exportFile_cases hjob
    · exact absurd rfl (hno out)
    · cases hr
      exact ht
  obtain ⟨c, hc⟩ := hread f hlisted
  obtain ⟨l, hl, -⟩ := FileSystem.read_ok_iff.1 hc
  obtain ⟨c', hc'⟩ := hread path hf
  obtain ⟨l', hl', hn'⟩ := FileSystem.read_ok_iff.1 hc'
  obtain ⟨ls, hover, -⟩ := h
  intro he
  rw [hover.toExtends.fileAt?_eq hl'] at he
  have hback := hover.fileAt?_of_file (FileSystem.hasFolder_withExtension hl hout) he hn'
  exact hap f hlisted path hf out hout (hback.trans hl'.symm)

/-- Exporting some scripts of a folder, in any order, comes for each to what exporting it alone
comes to at first, provided no text file is one of the scripts. In the end a text file holds the
text of the last of the scripts that was written to it. -/
theorem run_independent {folder : Path} {extension : String} {all : List Path}
    (hs : '/' ∉ s.textExtension.toList) (hd : w.files.kind? folder = some .dir)
    (hcol : exec (collect folder extension) w = (.ok all, w₀)) (hall : ∀ f ∈ files, f ∈ all)
    (hap : Apart s w.files files) :
    ∃ rs w', Ran (exportFile charset s) w rs w' ∧ rs.map (·.1) = files ∧
      exec (run (exportFile charset s) files) w = (.ok (.of rs), w') ∧
      (∀ p ∈ rs, (exec (exportFile charset s p.1) w).1 = p.2.mapError .error) ∧
      ∀ before path out after, rs = before ++ (path, .ok (.written out)) :: after →
        (∀ o, Writes after o → w'.files.fileAt? o ≠ w'.files.fileAt? out) →
        textPath s path = some out ∧ HoldsText charset w.files w'.files path out := by
  have hread : ∀ f ∈ files, ∃ c, w.files.read f = .ok c := fun f hf =>
    FileSystem.exists_read_of_kind? (isFile_of_mem_collect hd hcol (hall f hf))
  have hcrash (f : Path) (_ : f ∈ files) (w : World) :
      (exec (exportFile charset s f) w).1 ≠ .error .crash := exportFile_ne_crash hs f w
  obtain ⟨rs, w', hran, rfl⟩ := exists_ran hcrash w
  have hrs : ∀ p ∈ rs, p.1 ∈ rs.map (·.1) := fun p hp => List.mem_map_of_mem hp
  have hspared : Spared (rs.map (·.1)) w.files w.files :=
    ⟨[], .refl _, fun _ hl => absurd hl List.not_mem_nil⟩
  obtain ⟨hend, hresults⟩ := hran.result_eq hread hap hspared hrs
  refine ⟨rs, w', hran, rfl, exec_run hran, hresults, ?_⟩
  rintro before path out after rfl hafter
  have hpath : path ∈ (before ++ (path, .ok (.written out)) :: after).map (·.1) :=
    hrs (path, .ok (.written out)) (by simp)
  obtain ⟨_, hbefore, -⟩ := ran_append_iff.1 hran
  refine hran.holdsText (.inr (hread path hpath)) (fun o ho => ?_) hafter
  exact hbefore.fileAt?_ne hread hap hend (fun p hp => hrs p (List.mem_append_left _ hp)) ho hpath

/-- In reverse order the twins leave the text of the other one. -/
theorem run_independent_sample :
    ∃ w', exec (run (exportFile .utf8 .default) [.ofString "s.mes", .ofString "s.MES"])
        sampleTwins = (.ok ⟨2, 0, []⟩, w') ∧
      HoldsText .utf8 sampleTwins.files w'.files (.ofString "s.MES") (.ofString "s.txt") := by
  have hd : sampleTwins.files.kind? (.ofString ".") = some .dir := by cbv
  have hfound : (exec (collect (.ofString ".") "mes") sampleTwins).1 =
      .ok [.ofString "s.MES", .ofString "s.mes"] := by
    cbv
  have htext : sampleTwins.files.fileAt? (.ofString "s.txt") = none := by cbv
  have hlower : sampleTwins.files.fileAt? (.ofString "s.mes") = some [Bytes.ofText "s.mes"] := by
    cbv
  have hupper : sampleTwins.files.fileAt? (.ofString "s.MES") = some [Bytes.ofText "s.MES"] := by
    cbv
  have hfirst : (exec (exportFile .utf8 .default (.ofString "s.mes")) sampleTwins).1 =
      .ok (.written (.ofString "s.txt")) := by
    cbv
  have hsecond : (exec (exportFile .utf8 .default (.ofString "s.MES")) sampleTwins).1 =
      .ok (.written (.ofString "s.txt")) := by
    cbv
  have hap : Apart .default sampleTwins.files [.ofString "s.mes", .ofString "s.MES"] := by
    have hout : ∀ f ∈ [Path.ofString "s.mes", Path.ofString "s.MES"],
        textPath .default f = some (.ofString "s.txt") := by
      decide
    intro f hf g hg out ho
    rw [hout f hf] at ho
    cases ho
    rw [htext]
    simp only [List.mem_cons, List.not_mem_nil, or_false] at hg
    rcases hg with rfl | rfl
    · rw [hlower]
      simp
    · rw [hupper]
      simp
  generalize hcol : exec (collect (.ofString ".") "mes") sampleTwins = x at hfound
  obtain ⟨r, w₀⟩ := x
  have hr : r = .ok [.ofString "s.MES", .ofString "s.mes"] := hfound
  subst hr
  obtain ⟨rs, w', -, hmap, hrun, hresults, hholds⟩ :=
    @run_independent .utf8 .default _ _ _ _ _ _ (by decide) hd hcol (by decide) hap
  obtain ⟨⟨_, r₁⟩, rest, rfl, rfl, hrest⟩ := List.map_eq_cons_iff.1 hmap
  obtain ⟨⟨_, r₂⟩, rest, rfl, rfl, hnil⟩ := List.map_eq_cons_iff.1 hrest
  cases List.map_eq_nil_iff.1 hnil
  have hone := hresults _ List.mem_cons_self
  have htwo := hresults _ (List.mem_cons_of_mem _ List.mem_cons_self)
  dsimp only at hone htwo
  rw [hfirst] at hone
  rw [hsecond] at htwo
  obtain rfl : r₁ = .ok (.written (.ofString "s.txt")) := by
    cases r₁ with
    | ok _ =>
      cases hone
      rfl
    | error _ => cases hone
  obtain rfl : r₂ = .ok (.written (.ofString "s.txt")) := by
    cases r₂ with
    | ok _ =>
      cases htwo
      rfl
    | error _ => cases htwo
  refine ⟨w', hrun, (hholds [_] _ _ [] rfl ?_).2⟩
  rintro o ⟨_, ⟨⟩⟩

end Batch

end Dialogue
