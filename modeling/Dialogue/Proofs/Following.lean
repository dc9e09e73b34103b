import Dialogue.Proofs.Child
import Dialogue.Proofs.Collect
import Dialogue.Proofs.Pattern
import Dialogue.Proofs.WellFormed

/-!
# Following the parts of a folder

The pattern for a folder is followed part by part. `Follows path before p`: the path `p` is what
stands for the parts `before` of `path` then. It leads where these parts lead
(`Follows.exists_resolve`), so the pattern gets to the folder (`find_quoted`), unless it loses its
way in the working directory or finds a twin of a part with special characters.
-/

namespace Dialogue

open World

namespace Path

/-- Behind leading dots alone a path has an empty part. -/
def LosesWay (p : Path) : Prop :=
  p.isAbsolute = false ∧ (p.parts.dropWhile (· = [dot])).head? = some []

instance (p : Path) : Decidable p.LosesWay := inferInstanceAs (Decidable (_ ∧ _))

end Path

namespace Files

open Dialogue.Path

variable {p : Path} {n : Bytes}

/-! ## Searches -/

section
variable {w : World} {segment : Segment} {rest : List Segment} {ns : List Bytes}
  {f : Bytes → List Path}

theorem expand_apply (segments : List Segment) (p : Path) (w : World) :
    (expand segments p : StateM World (Except FileError (List Path))) w =
      (find segments p w, w) :=
  Prod.ext rfl (looks_expand segments p w)

theorem gather_apply {search : Bytes → StateM World (Except FileError (List Path))}
    (h : ∀ n ∈ ns, search n w = (.ok (f n), w)) :
    gather search ns w = (.ok (ns.flatMap f), w) := by
  induction ns with
  | nil => rfl
  | cons n ns ih =>
    have ih := ih fun m hm => h m (List.mem_cons_of_mem _ hm)
    rw [gather, bind_apply, h n List.mem_cons_self]
    dsimp only
    rw [bind_apply, ih]
    rfl

/-- A part that the pattern follows as it stands. -/
theorem find_exact (name : Bytes) : find (.exact name :: rest) p w =
    if (if name = [dot] ∨ name = [dot, dot] then decide (w.files.kind? p = some .dir)
      else (w.files.kind? (child p name)).isSome) then find rest (child p name) w
    else .ok [] := by
  have follow (found : Bool) : ((if found then expand rest (child p name) else pure (.ok []) :
      StateM World (Except FileError (List Path))) w).1 =
      if found then find rest (child p name) w else .ok [] := by
    cases found <;> rfl
  unfold find
  rw [expand]
  by_cases hdots : name = [dot] ∨ name = [dot, dot]
  · rw [if_pos (by simpa using hdots), if_pos hdots]
    exact follow _
  · rw [if_neg (by simpa using hdots), if_neg hdots]
    exact follow _

/-- A segment that the pattern compares with the names in a directory finds what the rest finds at
those it matches. -/
theorem find_among (hs : ∀ name, segment ≠ .exact name) {l : Location}
    (hp : w.files.resolve p = .ok (l, .dir))
    (h : ∀ n ∈ w.files.namesAt l, n.toText?.isSome → segment.matchesName n →
      find rest (child p n) w = .ok (f n)) :
    find (segment :: rest) p w = .ok (((w.files.namesAt l).filter fun n =>
      n.toText?.isSome && segment.matchesName n).flatMap f) := by
  have hdir : (isDir p : StateM World Bool) w = (true, w) :=
    Prod.ext (decide_eq_true (FileSystem.kind?_dir_iff.2 ⟨l, hp⟩)) rfl
  have hnames : (names p : StateM World (Except FileError (List Bytes))) w =
      (.ok (w.files.namesAt l), w) := Prod.ext (FileSystem.names_eq hp) rfl
  have hgather : gather (fun n => (expand rest (child p n) :
      StateM World (Except FileError (List Path)))) ((w.files.namesAt l).filter fun n =>
        n.toText?.isSome && segment.matchesName n) w = (.ok (((w.files.namesAt l).filter fun n =>
      n.toText?.isSome && segment.matchesName n).flatMap f), w) := by
    refine gather_apply fun n hn => ?_
    obtain ⟨hmem, hgood⟩ := List.mem_filter.1 hn
    obtain ⟨htext, hmatch⟩ := Bool.and_eq_true_iff.1 hgood
    rw [expand_apply, h n hmem htext hmatch]
  unfold find
  rw [expand, bind_apply, hdir, if_pos rfl, bind_apply, hnames]
  · exact congrArg Prod.fst hgather
  · exact hs

theorem find_among_of_not (hs : ∀ name, segment ≠ .exact name)
    (hp : w.files.kind? p ≠ some .dir) : find (segment :: rest) p w = .ok [] := by
  have hdir : (isDir p : StateM World Bool) w = (false, w) := Prod.ext (decide_eq_false hp) rfl
  unfold find
  rw [expand, bind_apply, hdir, if_neg Bool.false_ne_true]
  · rfl
  · exact hs

end

theorem start_child {fs : FileSystem} {dir : Path} (hn : slash ∉ n) :
    fs.start (child dir n) = fs.start dir := by
  rw [FileSystem.start, FileSystem.start, isAbsolute_child hn]

theorem moves_child_name {dir : Path} (hn : FileSystem.IsName n) :
    (child dir n).moves = dir.moves ++ [n] := by
  rw [moves_child hn.not_slash, List.filter_cons_of_pos hn.isMove, List.filter_nil]

/-! ## Parts of a folder -/

/-- The path stands for the first parts of a folder when a pattern is followed. -/
structure Follows (path : Path) (before : List Bytes) (p : Path) : Prop where
  isAbsolute : p.isAbsolute = path.isAbsolute
  moves : p.moves = before.filter isMove
  ne_nil : p.bytes ≠ []
  bytes : p = origin path ∨
    before ≠ [] ∧ p.bytes.Sublist (ofParts path.isAbsolute before).bytes

section
variable {path : Path} {before after : List Bytes} {fs : FileSystem} {l : Location}

theorem follows_origin (path : Path) : Follows path [] (origin path) := by
  unfold origin
  cases h : path.isAbsolute with
  | true =>
    rw [if_pos rfl]
    exact ⟨by rw [h]; rfl, by decide, by decide, .inl (by rw [origin, h, if_pos rfl])⟩
  | false =>
    rw [if_neg Bool.false_ne_true]
    exact ⟨by rw [h]; rfl, by decide, by decide,
      .inl (by rw [origin, h, if_neg Bool.false_ne_true])⟩

theorem child_origin (hn : slash ∉ n) : (child (origin path) n).bytes =
    if path.isAbsolute then slash :: n else n := by
  unfold origin
  cases path.isAbsolute with
  | true =>
    rw [if_pos rfl, if_pos rfl, child_of_not_here (by decide)]
    unfold join
    rw [isAbsolute_eq_false hn]
    rfl
  | false =>
    rw [if_neg Bool.false_ne_true, if_neg Bool.false_ne_true, child_of_here (by decide)]

theorem Follows.child (h : Follows path before p) (hn : slash ∉ n)
    (hne : p.components = [.here] → n ≠ []) : Follows path (before ++ [n]) (child p n) where
  isAbsolute := (isAbsolute_child hn).trans h.isAbsolute
  moves := by rw [moves_child hn, h.moves, List.filter_append]
  ne_nil := child_ne_nil h.ne_nil hne
  bytes := by
    refine .inr ⟨by simp, ?_⟩
    rcases h.bytes with rfl | ⟨hbefore, hsub⟩
    · rw [child_origin hn]
      cases before with
      | nil => cases path.isAbsolute <;> simp [ofParts]
      | cons x before =>
        rw [ofParts_append (by simp)]
        split
        · exact List.sublist_append_right _ _
        · exact (List.sublist_cons_self _ _).trans (List.sublist_append_right _ _)
    · rw [ofParts_append hbefore]
      exact (sublist_child _ hn).trans (hsub.append_right _)

theorem losesWay_of_append {xs : List Bytes} (hp : path.isAbsolute = false)
    (hparts : path.parts = xs ++ [] :: after) (hxs : ∀ x ∈ xs, isMove x = false) :
    path.LosesWay := by
  refine ⟨hp, ?_⟩
  rw [hparts]
  clear hparts
  induction xs with
  | nil => rfl
  | cons x xs ih =>
    have hx := hxs x List.mem_cons_self
    have ih := ih fun y hy => hxs y (List.mem_cons_of_mem _ hy)
    by_cases hdot : x = [dot]
    · rw [List.cons_append, List.dropWhile_cons_of_pos (by simpa using hdot)]
      exact ih
    · have hnil : x = [] := by simpa [isMove, hdot] using hx
      rw [List.cons_append, List.dropWhile_cons_of_neg (by simpa using hdot), hnil]
      rfl

/-- A path that keeps its way has no empty part where the pattern is still at its start. -/
theorem Follows.ne_nil_of_here (h : Follows path before p) (hway : ¬ path.LosesWay)
    (hparts : path.parts = before ++ n :: after) (hp : p.components = [.here]) : n ≠ [] := by
  rintro rfl
  obtain ⟨habs, hmoves⟩ := moves_of_components hp
  rw [h.moves, List.filter_eq_nil_iff] at hmoves
  exact hway (losesWay_of_append (h.isAbsolute.symm.trans habs) hparts fun x hx => by
    simpa using hmoves x hx)

/-- What stands for the first parts of a folder is left over from them. -/
theorem Follows.sublist (h : Follows path before p) (hparts : path.parts = before ++ after) :
    p = origin path ∨ p.bytes.Sublist path.bytes := by
  refine h.bytes.imp_right fun ⟨_, hsub⟩ => ?_
  have hpre := prefix_ofParts path.isAbsolute before after
  rw [← hparts, ofParts_parts] at hpre
  exact hsub.trans hpre.sublist

theorem Follows.length_le (h : Follows path before p) (hparts : path.parts = before ++ after)
    (hne : path.bytes ≠ []) : p.bytes.length ≤ path.bytes.length := by
  rcases h.sublist hparts with rfl | hsub
  · have hone : (origin path).bytes.length = 1 := by
      unfold origin
      split <;> rfl
    rw [hone]
    exact List.length_pos_iff.2 hne
  · exact hsub.length_le

theorem Follows.fault?_eq_none (h : Follows path before p) (hparts : path.parts = before ++ after)
    (hf : FileSystem.fault? path = none) : FileSystem.fault? p = none := by
  rcases h.sublist hparts with rfl | hsub
  · unfold origin
    split <;> decide
  · obtain ⟨hzero, -, hlen⟩ := FileSystem.fault?_eq_none_iff.1 hf
    exact FileSystem.fault?_eq_none_iff.2
      ⟨fun hz => hzero (hsub.subset hz), h.ne_nil, Nat.le_trans hsub.length_le hlen⟩

/-- What stands for the first parts of a folder leads to a directory on the way. -/
theorem Follows.exists_resolve (h : Follows path before p) (hparts : path.parts = before ++ after)
    (hl : fs.resolve path = .ok (l, .dir)) : ∃ d, fs.resolve p = .ok (d, .dir) ∧
      fs.walk (fs.start path) (before.filter isMove) = .ok d ∧
      fs.walk d (after.filter isMove) = .ok l := by
  obtain ⟨hf, hw, hd⟩ := FileSystem.resolve_dir_iff.1 hl
  have hstart : fs.start p = fs.start path := by
    rw [FileSystem.start, FileSystem.start, h.isAbsolute]
  have hmoves : path.moves = before.filter isMove ++ after.filter isMove := by
    rw [Path.moves, hparts, List.filter_append]
  rw [hmoves, FileSystem.walk_append_ok_iff] at hw
  obtain ⟨d, hbefore, hafter⟩ := hw
  refine ⟨d, FileSystem.resolve_dir_iff.2 ⟨h.fault?_eq_none hparts hf, ?_, ?_⟩, hbefore, hafter⟩
  · rw [hstart, h.moves, hbefore]
  · exact FileSystem.isDir_of_walk hafter hd

/-! ## Getting to the folder -/

theorem wantsDir_child_nil {q : Path} (hq : q.moves ≠ []) :
    FileSystem.wantsDir (Files.child q []) = true := by
  have hhere : q.components ≠ [.here] := fun h => hq (moves_of_components h).2
  have hne : q.bytes ≠ [] := by
    intro h
    rw [moves_eq, h] at hq
    exact hq rfl
  rw [child_of_not_here hhere]
  unfold join FileSystem.wantsDir
  rw [if_neg (by decide)]
  split
  · next h =>
    rw [List.append_nil]
    rcases Bool.or_eq_true_iff.1 h with h | h
    · exact absurd (List.isEmpty_iff.1 h) hne
    · exact h
  · simp

section
variable {w : World} {q : Path} {m : Location} {c tail : Bytes}

/-- No path leads below a file. -/
theorem kind?_child_of_file (hq : q.moves ≠ []) (hw : fs.walk (fs.start q) q.moves = .ok m)
    (hm : fs.node? m = some (.file c)) {x : Bytes} (hx : slash ∉ x) (hdot : x ≠ [dot]) :
    fs.kind? (Files.child q x) = none := by
  cases hr : fs.resolve (Files.child q x) with
  | error e => rw [FileSystem.kind?, hr]
  | ok r =>
    obtain ⟨l', n⟩ := r
    obtain ⟨hw', hn⟩ := FileSystem.walk_of_resolve hr
    rw [start_child hx, moves_child hx, FileSystem.walk_append_ok_iff] at hw'
    obtain ⟨m', hm', hlast⟩ := hw'
    cases hw.symm.trans hm'
    by_cases hmove : isMove x
    · rw [List.filter_cons_of_pos hmove] at hlast
      obtain ⟨_, hstep, -⟩ := FileSystem.walk_cons_ok_iff.1 hlast
      cases hm.symm.trans hstep.isDir
    · -- An empty part ends the path with a slash, which only suits a directory.
      have hnil : x = [] := by simpa [isMove, hdot] using hmove
      subst hnil
      cases hlast
      cases hm.symm.trans hn
      have hwants := (FileSystem.resolve_file_iff.1 hr).2.1
      rw [wantsDir_child_nil hq] at hwants
      cases hwants

/-- Nothing is found below a file. -/
theorem find_below_file (hq : q.moves ≠ [])
    (hw : w.files.walk (w.files.start q) q.moves = .ok m)
    (hm : w.files.node? m = some (.file c)) (hslash : ∀ x ∈ after, slash ∉ x) :
    find (after.map Segment.quoted ++ [.ending tail]) q w = .ok [] := by
  have hdir : w.files.kind? q ≠ some .dir := by
    intro hd
    obtain ⟨m', hm'⟩ := FileSystem.kind?_dir_iff.1 hd
    obtain ⟨hw', hd'⟩ := FileSystem.walk_of_resolve hm'
    cases hw.symm.trans hw'
    cases hm.symm.trans hd'
  cases after with
  | nil => exact find_among_of_not (by simp) hdir
  | cons x after =>
    rw [List.map_cons, List.cons_append]
    unfold Segment.quoted
    split
    · exact find_among_of_not (by simp) hdir
    · rw [find_exact, if_neg]
      split
      · exact fun h => hdir (of_decide_eq_true h)
      · next hdots =>
        rw [not_or] at hdots
        rw [kind?_child_of_file hq hw hm (hslash x List.mem_cons_self) hdots.1]
        exact Bool.false_ne_true

end

theorem flatMap_ite_of_mem {α β : Type} [DecidableEq α] {ns : List α} {a : α} (xs : List β)
    (hn : ns.Nodup) (ha : a ∈ ns) : (ns.flatMap fun n => if n = a then xs else []) = xs := by
  induction ns with
  | nil => cases ha
  | cons n ns ih =>
    obtain ⟨hnot, hrest⟩ := List.nodup_cons.1 hn
    rw [List.flatMap_cons]
    rcases List.mem_cons.1 ha with rfl | ha
    · have hnil : (ns.flatMap fun n => if n = a then xs else []) = [] := by
        rw [List.flatMap_eq_nil_iff]
        intro x hx
        refine if_neg ?_
        rintro rfl
        exact hnot hx
      rw [if_pos rfl, hnil, List.append_nil]
    · have hne : n ≠ a := by
        rintro rfl
        exact hnot ha
      rw [if_neg hne, List.nil_append, ih hrest ha]

theorem ne_of_special {part : Bytes} (h : part.any (· ∈ Segment.special)) :
    isMove part ∧ part ≠ [dot, dot] := by
  constructor
  · unfold isMove
    rw [Bool.and_eq_true, decide_eq_true_iff, decide_eq_true_iff]
    constructor
    · rintro rfl
      cases h
    · rintro rfl
      exact absurd h (by decide)
  · rintro rfl
    exact absurd h (by decide)

/-- Of the names that a part is compared with only the part itself leads on, unless another
directory has such a name. -/
theorem find_caseless {w : World} {tail part : Bytes} {d : Location} {found : List Path}
    (hwf : w.files.WellFormed) (hp : w.files.resolve p = .ok (d, .dir))
    (hslash : ∀ x ∈ after, slash ∉ x) (hpart : part ∈ w.files.namesAt d)
    (htext : part.toText?.isSome)
    (htwin : ∀ n, w.files.node? (d ++ [n]) = some .dir →
      n.map Segment.fold = part.map Segment.fold → n = part)
    (hfind : find (after.map Segment.quoted ++ [.ending tail]) (Files.child p part) w =
      .ok found) :
    find (.caseless part :: (after.map Segment.quoted ++ [.ending tail])) p w = .ok found := by
  have hfound (n : Name) (hn : n ∈ w.files.namesAt d) (_ : n.toText?.isSome)
      (hmatch : (Segment.caseless part).matchesName n) :
      find (after.map Segment.quoted ++ [.ending tail]) (Files.child p n) w =
        .ok (if n = part then found else []) := by
    by_cases heq : n = part
    · rw [if_pos heq, heq, hfind]
    · rw [if_neg heq]
      obtain ⟨node, hnode⟩ := hwf.mem_namesAt_iff.1 hn
      have hname := hwf.isName_of_node hnode
      cases node with
      | dir => exact absurd (htwin n hnode (of_decide_eq_true hmatch)) heq
      | file c =>
        obtain ⟨hw, hd⟩ := FileSystem.walk_of_resolve hp
        have hmoves : (Files.child p n).moves = p.moves ++ [n] := moves_child_name hname
        refine find_below_file (m := d ++ [n]) (by simp [hmoves]) ?_ hnode hslash
        rw [start_child hname.not_slash, hmoves, FileSystem.walk_append_ok_iff]
        exact ⟨d, hw, FileSystem.walk_cons_ok_iff.2 ⟨_, .down hd hname.ne_here hname.ne_up
          hname.length_le hnode, rfl⟩⟩
  rw [find_among (by simp) hp hfound, flatMap_ite_of_mem found ((hwf.nodup_namesAt d).filter _)]
  refine List.mem_filter.2 ⟨hpart, ?_⟩
  rw [htext, Bool.true_and]
  exact decide_eq_true rfl

/-- On the way to a folder no directory has the name of a part with special characters in another
letter case. -/
def NoTwins (fs : FileSystem) (path : Path) : Prop :=
  ∀ before part after d n, path.parts = before ++ part :: after →
    part.any (· ∈ Segment.special) → fs.walk (fs.start path) (before.filter isMove) = .ok d →
    fs.node? (d ++ [n]) = some .dir → n.map Segment.fold = part.map Segment.fold → n = part

theorem find_quoted {w : World} {tail : Bytes} (hwf : w.files.WellFormed)
    (hl : w.files.resolve path = .ok (l, .dir)) (htext : path.toText?.isSome)
    (hway : ¬ path.LosesWay) (htwins : NoTwins w.files path)
    (hparts : path.parts = before ++ after) (h : Follows path before p) :
    ∃ base, Follows path path.parts base ∧
      find (after.map Segment.quoted ++ [.ending tail]) p w =
        .ok (((w.files.namesAt l).filter fun n =>
          n.toText?.isSome && (Segment.ending tail).matchesName n).map (Files.child base)) := by
  induction after generalizing before p with
  | nil =>
    rw [List.append_nil] at hparts
    have hall : path.parts = before ++ [] := by rw [hparts, List.append_nil]
    obtain ⟨d, hp, -, hlast⟩ := h.exists_resolve hall hl
    cases hlast
    refine ⟨p, hparts ▸ h, ?_⟩
    rw [List.map_nil, List.nil_append, find_among (f := fun n => [Files.child p n]) (by simp) hp
      fun n _ _ _ => rfl, List.map_eq_flatMap]
  | cons part after ih =>
    have hmem : part ∈ path.parts := by simp [hparts]
    have hslash : slash ∉ part := not_slash_mem_of_mem_parts hmem
    have hnext := h.child hslash (h.ne_nil_of_here hway hparts)
    have hparts' : path.parts = before ++ [part] ++ after := by simp [hparts]
    obtain ⟨base, hbase, hfind⟩ := ih hparts' hnext
    refine ⟨base, hbase, ?_⟩
    obtain ⟨d, hp, hd, -⟩ := h.exists_resolve hparts hl
    obtain ⟨d', hp', hd', -⟩ := hnext.exists_resolve hparts' hl
    rw [List.map_cons, List.cons_append]
    by_cases hspecial : part.any (· ∈ Segment.special)
    · rw [Segment.quoted, if_pos hspecial]
      refine find_caseless hwf hp (fun x hx => ?_) ?_ (isSome_toText?_of_mem_parts htext hmem)
        (fun n => htwins before part after d n hparts hspecial hd) hfind
      · exact not_slash_mem_of_mem_parts (p := path) (by simp [hparts, hx])
      · have hproper := ne_of_special hspecial
        rw [List.filter_append, List.filter_cons_of_pos hproper.1, List.filter_nil,
          FileSystem.walk_append_ok_iff] at hd'
        obtain ⟨_, hsame, hlast⟩ := hd'
        cases hd.symm.trans hsame
        obtain ⟨_, hstep, -⟩ := FileSystem.walk_cons_ok_iff.1 hlast
        cases hstep with
        | here _ => exact absurd hproper.1 (by decide)
        | up _ => exact absurd rfl hproper.2
        | down _ _ _ _ hn => exact hwf.mem_namesAt_iff.2 ⟨_, hn⟩
    · rw [Segment.quoted, if_neg hspecial, find_exact, if_pos, hfind]
      split
      · exact decide_eq_true (FileSystem.kind?_dir_iff.2 ⟨d, hp⟩)
      · rw [FileSystem.kind?_dir_iff.2 ⟨d', hp'⟩]
        rfl

end

end Files

end Dialogue
