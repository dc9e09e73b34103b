import Dialogue.Proofs.BatchExport
import Dialogue.Proofs.Following
import Dialogue.Proofs.PathOrder
import Mathlib

/-!
# Collecting from a folder

From a folder whose pattern keeps its way and meets no twins, what is collected are the files that
lie in it and have the extension, in the order of their names (`collect_folder`). Otherwise files of
another folder are collected, or none (`not_collect_folder`).
-/

namespace Dialogue

open World

namespace Files

open Dialogue.Path

variable {fs : FileSystem} {base path : Path} {l l' : Location} {n : Name} {w : World}
  {extension : String}

/-! ## Files in a directory -/

theorem fault?_child (hl : fs.resolve base = .ok (l, .dir)) (hn : FileSystem.IsName n)
    (hlen : (child base n).bytes.length ≤ FileSystem.maxPath) :
    FileSystem.fault? (child base n) = none := by
  obtain ⟨hf, -, -⟩ := FileSystem.resolve_dir_iff.1 hl
  obtain ⟨hzero, hne, -⟩ := FileSystem.fault?_eq_none_iff.1 hf
  refine FileSystem.fault?_eq_none_iff.2 ⟨fun h => ?_, child_ne_nil hne fun _ => hn.ne_nil, hlen⟩
  rcases List.mem_append.1 ((sublist_child base hn.not_slash).subset h) with h | h
  · exact hzero h
  · rcases List.mem_cons.1 h with h | h
    · exact absurd h (by decide)
    · exact hn.not_zero h

/-- A child of a directory leads to what lies there under its name, unless its path is too long. -/
theorem fileAt?_child_iff (hl : fs.resolve base = .ok (l, .dir)) (hn : FileSystem.IsName n) :
    fs.fileAt? (child base n) = some l' ↔ l' = l ++ [n] ∧
      (∃ c, fs.node? (l ++ [n]) = some (.file c)) ∧
      (child base n).bytes.length ≤ FileSystem.maxPath := by
  obtain ⟨hw, hd⟩ := FileSystem.walk_of_resolve hl
  have hstart : fs.start (child base n) = fs.start base := start_child hn.not_slash
  have hmoves : (child base n).moves = base.moves ++ [n] := moves_child_name hn
  rw [FileSystem.fileAt?_eq_some_iff]
  constructor
  · rintro ⟨c, hr⟩
    obtain ⟨hwalk, hnode⟩ := FileSystem.walk_of_resolve hr
    rw [hstart, hmoves, FileSystem.walk_append_ok_iff] at hwalk
    obtain ⟨m, hm, hlast⟩ := hwalk
    cases hw.symm.trans hm
    have hl' : l' = l ++ [n] := FileSystem.eq_append_of_walk
      (by simpa using And.intro hn.ne_here hn.ne_up) hlast
    have hf := FileSystem.fault?_eq_none_iff.1 (FileSystem.resolve_file_iff.1 hr).1
    exact ⟨hl', ⟨c, hl' ▸ hnode⟩, hf.2.2⟩
  · rintro ⟨rfl, ⟨c, hc⟩, hlen⟩
    obtain ⟨front, hfront, hchild⟩ := exists_child_eq base
    have heq := hchild n hn.not_slash
    obtain ⟨absolute, init, hsteps⟩ := FileSystem.steps_append hfront
    have hs : FileSystem.steps (child base n) = init ++ [n] := by
      rw [heq]
      exact (hsteps n hn.not_slash hn.ne_nil).2
    have hinit : init.filter (· ≠ FileSystem.here) = base.moves := by
      rw [FileSystem.moves_eq_filter_steps, hs, List.filter_append,
        List.filter_cons_of_pos (by simpa using hn.ne_here), List.filter_nil] at hmoves
      exact (List.append_inj' hmoves rfl).1
    refine ⟨c, FileSystem.resolve_file_iff.2 ⟨fault?_child hl hn hlen, ?_, ?_, hc⟩⟩
    · unfold FileSystem.wantsDir
      rw [heq, decide_eq_false_iff_not, List.getLast?_append_of_ne_nil _ hn.ne_nil]
      exact fun h => hn.not_slash (List.mem_of_getLast? h)
    · rw [hs, hstart, FileSystem.walk_append_ok_iff]
      have hwalk : fs.walk (fs.start base) init = .ok l :=
        FileSystem.walk_of_walk_filter (hinit ▸ hw) hd
      exact ⟨l, hwalk, FileSystem.walk_cons_ok_iff.2
        ⟨_, .down hd hn.ne_here hn.ne_up hn.length_le hc, rfl⟩⟩

theorem kind?_child_file_iff (hl : fs.resolve base = .ok (l, .dir)) (hn : FileSystem.IsName n) :
    fs.kind? (child base n) = some .file ↔ (∃ c, fs.node? (l ++ [n]) = some (.file c)) ∧
      (child base n).bytes.length ≤ FileSystem.maxPath := by
  rw [FileSystem.kind?_file_iff]
  constructor
  · rintro ⟨l', hl'⟩
    exact ((fileAt?_child_iff hl hn).1 hl').2
  · intro h
    exact ⟨_, (fileAt?_child_iff hl hn).2 ⟨rfl, h⟩⟩

theorem segments_of_not_slash (path : Path) (h : '/' ∉ extension.toList) :
    segments path (Bytes.ofText extension) =
      path.parts.map Segment.quoted ++ [.ending (dot :: Bytes.ofText extension)] := by
  have hslash : slash ∉ dot :: Bytes.ofText extension := by
    rw [List.mem_cons, not_or]
    exact ⟨by decide, mt slash_mem_ofText_iff.1 h⟩
  unfold segments
  rw [List.splitOn_eq_singleton hslash]
  rfl

end Files

namespace Batch

open Files Dialogue.Path

variable {path : Path} {l : Location} {w : World} {extension : String}

theorem isProper_of_isName {n : Name} (h : FileSystem.IsName n) : IsProper n :=
  ⟨h.not_slash, h.ne_nil, h.ne_here, h.ne_up⟩

/-- The children of a directory are sorted by their names. -/
theorem mergeSort_children {ns : List Name} (base : Path)
    (h : ∀ n ∈ ns, FileSystem.IsName n) :
    (ns.map (child base)).mergeSort (fun p q => !q.lt p) =
      (ns.mergeSort fun a b => !decide (b < a)).map (child base) := by
  obtain ⟨front, hfront, hchild⟩ := exists_child_eq base
  have hmap (ms : List Name) (hms : ∀ n ∈ ms, n ∈ ns) :
      ms.map (child base) = ms.map fun n => Path.mk (front ++ n) :=
    List.map_congr_left fun n hn => hchild n (h n (hms n hn)).not_slash
  rw [hmap ns fun _ hn => hn, hmap _ fun _ hn => List.mem_mergeSort.1 hn]
  exact mergeSort_map_append hfront fun n hn => isProper_of_isName (h n hn)

/-- Following the pattern for a folder gets to the folder and to the names there that have the
extension. -/
theorem find_segments (hwf : w.files.WellFormed) (hl : w.files.resolve path = .ok (l, .dir))
    (htext : path.toText?.isSome) (hext : '/' ∉ extension.toList) (hway : ¬ path.LosesWay)
    (htwins : NoTwins w.files path) :
    ∃ (base : Path) (names : List Name), find (segments path (Bytes.ofText extension)) (origin path) w =
        .ok (names.map (child base)) ∧
      Follows path path.parts base ∧ names.Nodup ∧
      ∀ n, n ∈ names ↔ (∃ node, w.files.node? (l ++ [n]) = some node) ∧
        HasExtension n extension := by
  have hall : path.parts = [] ++ path.parts := rfl
  obtain ⟨base, hbase, hfind⟩ :=
    find_quoted hwf hl htext hway htwins hall (follows_origin path)
  refine ⟨base, _, (segments_of_not_slash path hext).symm ▸ hfind, hbase,
    (hwf.nodup_namesAt l).filter _, fun n => ?_⟩
  rw [List.mem_filter, Segment.ending_matches_iff, hwf.mem_namesAt_iff]

/-- What the pattern of a folder gets to is collected, as far as it is files. -/
theorem collect_of_find {found : List Path} (hd : w.files.kind? path = some .dir)
    (htext : path.toText?.isSome)
    (hfind : find (segments path (Bytes.ofText extension)) (origin path) w = .ok found) :
    exec (collect path extension) w = (.ok ((found.filter fun p =>
      w.files.kind? p = some .file).mergeSort fun p q => !q.lt p), w) := by
  have hrun : exec (collect path extension) w = ((exec (collect path extension) w).1,
      (exec (collect path extension) w).2) := rfl
  obtain ⟨hw', ⟨e, -, hnone | ⟨e', he'⟩⟩ | ⟨found', -, hfound, hr⟩⟩ := collect_folder_cases hd hrun
  · rw [hnone] at htext
    cases htext
  · cases hfind.symm.trans he'
  · cases hfind.symm.trans hfound
    exact Prod.ext hr hw'

/-- From a folder are collected, in the order of their names, the files in it that have the
extension, as far as their paths are not too long. -/
theorem collect_folder (hwf : w.files.WellFormed) (hl : w.files.resolve path = .ok (l, .dir))
    (htext : path.toText?.isSome) (hext : '/' ∉ extension.toList) (hway : ¬ path.LosesWay)
    (htwins : NoTwins w.files path) :
    ∃ (base : Path) (names : List Name),
      exec (collect path extension) w = (.ok (names.map (child base)), w) ∧
      base.isAbsolute = path.isAbsolute ∧ base.moves = path.moves ∧
      base.bytes.length ≤ path.bytes.length ∧ names.Pairwise (· < ·) ∧
      (∀ n ∈ names, w.files.fileAt? (child base n) = some (l ++ [n])) ∧
      ∀ n, n ∈ names ↔ (∃ c, w.files.node? (l ++ [n]) = some (.file c)) ∧
        HasExtension n extension ∧ (child base n).bytes.length ≤ FileSystem.maxPath := by
  obtain ⟨base, names, hfind, hbase, hnodup, hnames⟩ :=
    find_segments hwf hl htext hext hway htwins
  have hall : path.parts = path.parts ++ [] := (List.append_nil _).symm
  obtain ⟨d, hd, -, hlast⟩ := hbase.exists_resolve hall hl
  cases hlast
  have hisName : ∀ n ∈ names, FileSystem.IsName n := by
    intro n hn
    obtain ⟨⟨node, hnode⟩, -⟩ := (hnames n).1 hn
    exact hwf.isName_of_node hnode
  have hrun := collect_of_find (FileSystem.kind?_dir_iff.2 ⟨l, hl⟩) htext hfind
  rw [List.filter_map, mergeSort_children base fun n hn => hisName n (List.mem_filter.1 hn).1]
    at hrun
  have hmem (n : Name) : n ∈ ((names.filter fun n => w.files.kind? (child base n) =
      some .file).mergeSort fun a b => !decide (b < a)) ↔
      (∃ c, w.files.node? (l ++ [n]) = some (.file c)) ∧ HasExtension n extension ∧
        (child base n).bytes.length ≤ FileSystem.maxPath := by
    rw [List.mem_mergeSort, List.mem_filter, decide_eq_true_iff]
    constructor
    · rintro ⟨hn, hkind⟩
      obtain ⟨hc, hlen⟩ := (kind?_child_file_iff hd (hisName n hn)).1 hkind
      exact ⟨hc, ((hnames n).1 hn).2, hlen⟩
    · rintro ⟨⟨c, hc⟩, hextension, hlen⟩
      have hn : n ∈ names := (hnames n).2 ⟨⟨_, hc⟩, hextension⟩
      exact ⟨hn, (kind?_child_file_iff hd (hisName n hn)).2 ⟨⟨c, hc⟩, hlen⟩⟩
  refine ⟨base, _, hrun, hbase.isAbsolute, hbase.moves, ?_, pairwise_mergeSort (hnodup.filter _),
    fun n hn => ?_, hmem⟩
  · have hf := FileSystem.fault?_eq_none_iff.1 (FileSystem.resolve_dir_iff.1 hl).1
    exact hbase.length_le hall hf.2.1
  · obtain ⟨hc, -, hlen⟩ := (hmem n).1 hn
    have hname : FileSystem.IsName n := hwf.isName_of_node hc.choose_spec
    exact (fileAt?_child_iff hd hname).2 ⟨rfl, hc, hlen⟩

/-- A folder with a script, a hidden script and a folder that is named like a script. -/
def sampleFolder : World where
  files := {
    entries := [([Bytes.ofText "[x]"], .dir),
      ([Bytes.ofText "[x]", Bytes.ofText ".mes"], .file sampleScript),
      ([Bytes.ofText "[x]", Bytes.ofText "a.MES"], .file sampleScript),
      ([Bytes.ofText "[x]", Bytes.ofText "c.mes"], .dir)]
    workDir := [] }

theorem noTwins_sampleFolder : NoTwins sampleFolder.files (.ofString "[x]") := by
  have hwf : sampleFolder.files.WellFormed := by decide
  have hone : (Path.ofString "[x]").parts = [Bytes.ofText "[x]"] := by decide
  intro before part after d n hparts _ hd hn _
  rw [hone] at hparts
  cases before with
  | nil =>
    cases hparts
    have hroot : d = [] := (Except.ok.inj hd).symm
    subst hroot
    have hmem := (hwf.mem_iff (by simp)).2 hn
    simpa [sampleFolder, sampleScript] using hmem
  | cons x before =>
    have hlen := congrArg List.length hparts
    simp at hlen

theorem collect_folder_sample :
    ∃ (base : Path) (names : List Name),
      exec (collect (.ofString "[x]") "mes") sampleFolder =
        (.ok (names.map (child base)), sampleFolder) ∧
      Bytes.ofText ".mes" ∈ names ∧ Bytes.ofText "a.MES" ∈ names ∧
      Bytes.ofText "c.mes" ∉ names := by
  have hwf : sampleFolder.files.WellFormed := by decide
  have hl : sampleFolder.files.resolve (.ofString "[x]") =
      .ok ([Bytes.ofText "[x]"], .dir) := by
    cbv
  have htext : (Path.ofString "[x]").toText?.isSome := by cbv
  have hext : '/' ∉ "mes".toList := by decide
  obtain ⟨base, names, hrun, -, -, hbase, -, -, hnames⟩ :=
    collect_folder hwf hl htext hext (by decide) noTwins_sampleFolder
  have hshort {n : Name} (hn : slash ∉ n) (hlen : n.length ≤ 5) :
      (child base n).bytes.length ≤ FileSystem.maxPath := by
    have hle := (sublist_child base hn).length_le
    have hfour : (Path.ofString "[x]").bytes.length = 3 := by decide
    rw [List.length_append, List.length_cons] at hle
    rw [FileSystem.maxPath]
    omega
  refine ⟨base, names, hrun, (hnames _).2 ⟨⟨sampleScript, ?_⟩, ⟨"", "mes", ?_, rfl⟩, ?_⟩,
    (hnames _).2 ⟨⟨sampleScript, ?_⟩, ⟨"a", "MES", ?_, ?_⟩, ?_⟩, fun h => ?_⟩
  · cbv
  · decide
  · exact hshort (by decide) (by decide)
  · cbv
  · decide
  · cbv
  · exact hshort (by decide) (by decide)
  · obtain ⟨⟨c, hc⟩, -⟩ := (hnames _).1 h
    have hdir : sampleFolder.files.node? ([Bytes.ofText "[x]"] ++ [Bytes.ofText "c.mes"]) =
        some .dir := by
      cbv
    cases hc.symm.trans hdir

/-- Two folders whose names differ in case only, one of them with a script. -/
def sampleTwinFolders : World where
  files := {
    entries := [([Bytes.ofText "[X]"], .dir),
      ([Bytes.ofText "[X]", Bytes.ofText "a.mes"], .file sampleScript),
      ([Bytes.ofText "[x]"], .dir)]
    workDir := [] }

/-- From a folder with a twin the files of the twin are collected, and from the working directory
followed by a slash nothing is. -/
theorem not_collect_folder :
    (sampleTwinFolders.files.WellFormed ∧
      sampleTwinFolders.files.resolve (.ofString "[x]") = .ok ([Bytes.ofText "[x]"], .dir) ∧
      sampleTwinFolders.files.fileAt? (.ofString "[X]/a.mes") =
        some [Bytes.ofText "[X]", Bytes.ofText "a.mes"] ∧
      (exec (collect (.ofString "[x]") "mes") sampleTwinFolders).1 =
        .ok [.ofString "[X]/a.mes"]) ∧
    (sampleWorld.files.WellFormed ∧ sampleWorld.files.resolve (.ofString "./") = .ok ([], .dir) ∧
      sampleWorld.files.fileAt? (.ofString "./s.mes") = some [Bytes.ofText "s.mes"] ∧
      (exec (collect (.ofString "./") "mes") sampleWorld).1 = .ok []) := by
  refine ⟨⟨?_, ?_, ?_, ?_⟩, ?_, ?_, ?_, ?_⟩
  · decide
  · cbv
  · cbv
  · cbv
  · decide
  · cbv
  · cbv
  · cbv

end Batch

end Dialogue
