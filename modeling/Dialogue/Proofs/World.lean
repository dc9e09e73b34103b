import Dialogue.Files.Attempt
import Dialogue.Proofs.Changes

/-!
# Running on the modelled host

`exec x w`: what `x` comes to in the world `w`, and the world after it; `exec_bind` and a lemma for
each thing that can be asked of the host open a job one step at a time. `Looks x`: `x` asks the host
questions only and leaves the world as it is. `Founds Q x`: all that `x` does to files is that it
makes directories, at paths of `Q`, as making a directory with those above it does
(`founds_makeDirs`).
-/

namespace Dialogue

namespace World

variable {α β ε : Type}

/-- What a job comes to, and the world after it. -/
def exec (x : ExceptT Failure (StateM World) α) (w : World) : Except Failure α × World :=
  x.run.run w

theorem exec_bind (x : ExceptT Failure (StateM World) α)
    (f : α → ExceptT Failure (StateM World) β) (w : World) :
    exec (x >>= f) w =
      match exec x w with
      | (.ok a, w') => exec (f a) w'
      | (.error e, w') => (.error e, w') := by
  have h : exec (x >>= f) w =
      (ExceptT.bindCont f (exec x w).1 : StateM World (Except Failure β)) (exec x w).2 := rfl
  rw [h]
  rcases exec x w with ⟨e | a, w'⟩
  · rfl
  · rfl

theorem exec_ask_bind (x : StateM World α) (f : α → ExceptT Failure (StateM World) β) (w : World) :
    exec (ask x >>= f) w = exec (f (x w).1) (x w).2 := rfl

theorem exec_report_bind (ns : List Notice) (f : Unit → ExceptT Failure (StateM World) β)
    (w : World) :
    exec (report ns >>= f) w = exec (f ()) { w with notices := w.notices ++ ns } := rfl

/-! ## Files -/

theorem bind_apply (x : StateM World α) (f : α → StateM World β) (w : World) :
    (x >>= f) w = f (x w).1 (x w).2 := rfl

@[simp] theorem read_apply (p : Path) (w : World) :
    (Files.read p : StateM World (Except FileError Bytes)) w = (w.files.read p, w) := rfl

theorem readText_apply (p : Path) (w : World) :
    (Files.readText p : StateM World (Except FileError String)) w = (w.files.readText p, w) := by
  rw [Files.readText, bind_apply, read_apply, FileSystem.readText]
  cases w.files.read p with
  | error e => rfl
  | ok bytes =>
    dsimp only
    cases bytes.toText? <;> rfl

theorem write_apply (p : Path) (c : Bytes) (w : World) :
    (Files.write p c : StateM World (Except FileError Unit)) w = update (·.write p c) w := rfl

theorem makeDir_apply (p : Path) (w : World) :
    (Files.makeDir p : StateM World (Except FileError Unit)) w = update (·.makeDir p) w := rfl

/-! ## Taking a job apart -/

section
variable {w w' : World} {r : Except Failure β} {doing : String}

theorem exec_bind_cases {x : ExceptT Failure (StateM World) α}
    {f : α → ExceptT Failure (StateM World) β} (h : exec (x >>= f) w = (r, w')) :
    (∃ a w₁, exec x w = (.ok a, w₁) ∧ exec (f a) w₁ = (r, w')) ∨
      ∃ e, exec x w = (.error e, w') ∧ r = .error e := by
  rw [exec_bind] at h
  split at h
  · next a w₁ hx => exact .inl ⟨a, w₁, hx, h⟩
  · next e w₁ hx =>
    cases h
    exact .inr ⟨e, hx, rfl⟩

theorem exec_attempt_cases {cause : ε → Cause} {x : Except ε β}
    (h : exec (attempt doing cause x) w = (r, w')) :
    w' = w ∧ ((∃ a, x = .ok a ∧ r = .ok a) ∨ ∃ e, r = .error (.error e)) := by
  cases x with
  | ok a =>
    cases h
    exact ⟨rfl, .inl ⟨a, rfl, rfl⟩⟩
  | error e =>
    cases h
    exact ⟨rfl, .inr ⟨_, rfl⟩⟩

theorem exec_attempt_bind_cases {cause : ε → Cause} {x : Except ε α}
    {f : α → ExceptT Failure (StateM World) β}
    (h : exec (attempt doing cause x >>= f) w = (r, w')) :
    (∃ a, x = .ok a ∧ exec (f a) w = (r, w')) ∨ (w' = w ∧ ∃ e, r = .error (.error e)) := by
  cases x with
  | ok a => exact .inl ⟨a, rfl, h⟩
  | error e =>
    cases h
    exact .inr ⟨rfl, _, rfl⟩

theorem exec_write_bind_cases {p : Path} {c : Bytes} {f : Unit → ExceptT Failure (StateM World) β}
    (h : exec (ask (Files.write p c) >>= fun x => attempt doing .file x >>= f) w = (r, w')) :
    (∃ fs, w.files.write p c = .ok fs ∧ exec (f ()) { w with files := fs } = (r, w')) ∨
      (w' = w ∧ ∃ e, r = .error (.error e)) := by
  rw [exec_ask_bind, write_apply, update] at h
  cases hw : w.files.write p c with
  | ok fs =>
    rw [hw] at h
    exact .inl ⟨fs, rfl, h⟩
  | error e =>
    rw [hw] at h
    cases h
    exact .inr ⟨rfl, _, rfl⟩

end

/-! ## Questions -/

section
variable {x : StateM World α} {f : α → StateM World β} {Q : Path → Prop} {p : Path}
  {ps : List Path}

/-- The host is asked questions only. -/
def Looks (x : StateM World α) : Prop := ∀ w : World, (x w).2 = w

theorem looks_pure (a : α) : Looks (pure a) := fun _ => rfl

theorem Looks.bind (hx : Looks x) (hf : ∀ a, Looks (f a)) : Looks (x >>= f) :=
  fun w => (hf (x w).1 (x w).2).trans (hx w)

theorem looks_names : Looks (Files.names p) := fun _ => rfl

theorem looks_exists? : Looks (Files.exists? p) := fun _ => rfl

theorem looks_isDir : Looks (Files.isDir p) := fun _ => rfl

/-! ## Directories -/

/-- Directories are made at paths of `Q`, and nothing else happens to files. -/
def Founds (Q : Path → Prop) (x : StateM World α) : Prop :=
  ∀ w : World, w.files.Changes Q [] (x w).2.files

theorem Looks.founds (h : Looks x) : Founds Q x := by
  intro w
  rw [h w]
  exact .refl _

theorem Founds.bind (hx : Founds Q x) (hf : ∀ a, Founds Q (f a)) : Founds Q (x >>= f) :=
  fun w => (hx w).trans (hf (x w).1 (x w).2)

theorem founds_makeDir (hp : Q p) : Founds Q (Files.makeDir p) := by
  intro w
  rw [makeDir_apply, update]
  cases hm : w.files.makeDir p with
  | ok fs =>
    refine (FileSystem.Changes.of_makeDir hm).mono fun q hq => ?_
    rw [hq]
    exact hp
  | error e => exact .refl _

theorem founds_settle (r : Except FileError Unit) : Founds Q (Files.makeFirst.settle p r) := by
  cases r with
  | ok _ => exact (looks_pure _).founds
  | error e =>
    refine looks_isDir.founds.bind fun there => ?_
    split
    · exact (looks_pure _).founds
    · exact (looks_pure _).founds

theorem founds_makeFirst (hps : ∀ p ∈ ps, Q p) : Founds Q (Files.makeFirst ps) := by
  induction ps with
  | nil => exact (looks_pure _).founds
  | cons p ps ih =>
    rw [List.forall_mem_cons] at hps
    refine (founds_makeDir hps.1).bind fun r => ?_
    split
    · exact (looks_pure _).founds
    · refine (ih hps.2).bind fun r' => ?_
      split
      · exact (looks_pure _).founds
      · exact (founds_makeDir hps.1).bind founds_settle
    · exact founds_settle _

theorem founds_makeDirs {q : Path} (hq : q.parent = some p) :
    Founds (·.Above q) (Files.makeDirs p) :=
  founds_makeFirst fun _ ha => Files.above_of_mem_ancestors hq (List.mem_filter.1 ha).1

end

end World

end Dialogue
