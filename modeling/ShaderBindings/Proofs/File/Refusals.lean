import Mathlib.Logic.Basic
import ShaderBindings.File.Access

/-!
# Files — Refusals

Which errors access to files ends with. The file system refuses a path, or the
path has a null character and is no path at all.
-/

namespace ShaderBindings.File.System

variable {fs : System} {p : Path} {e : Error}

/-- Something that can keep a path from being followed which is only to be
read. -/
def KeepsFromReading (cause : Cause) : Prop :=
  meansAbsent cause = true ∨ cause = .nameTooLong

theorem walkNames_toRead_error {here : Location} {names : List String}
    {cause : Cause} {follow : Location → List String → Except Cause Found}
    (hfollow : ∀ here names cause, follow here names = .error cause →
      KeepsFromReading cause)
    (h : fs.walkNames .toRead follow here names = .error cause) :
    KeepsFromReading cause := by
  fun_induction fs.walkNames .toRead follow here names with
  | case1 | case7 | case9 => cases h
  | case2 | case8 =>
    cases h
    exact .inl rfl
  | case5 _ _ _ _ _ _ hwrite => simp at hwrite
  | case6 =>
    cases h
    exact .inr rfl
  | case3 _ _ _ _ _ ih | case4 _ _ _ _ _ _ ih
  | case11 _ _ _ _ _ _ _ _ _ _ _ _ ih => exact ih h
  | case10 => exact hfollow _ _ _ h

theorem walk_toRead_error {links : Nat} {here : Location}
    {names : List String} {cause : Cause}
    (h : fs.walk .toRead links here names = .error cause) :
    KeepsFromReading cause := by
  induction links generalizing here names cause with
  | zero =>
    refine walkNames_toRead_error (fun _ _ _ hfollow => ?_) h
    cases hfollow
    exact .inl rfl
  | succ links ih => exact walkNames_toRead_error (fun _ _ _ => ih) h

theorem locate_toRead_error {text : String} {cause : Cause}
    (h : fs.locate .toRead text = .error cause) : KeepsFromReading cause := by
  unfold locate at h
  split at h
  next =>
    cases h
    exact .inl rfl
  next =>
    split at h
    next =>
      cases h
      exact .inr rfl
    next => exact walk_toRead_error h

/-- Looking fails where walking does, unless that only means that there is
nothing. -/
theorem locate_of_entryOf?_error (h : fs.entryOf? p = .error e) :
    hasNull p.text = false ∧ ∃ cause, meansAbsent cause = false ∧
      fs.locate .toRead p.text = .error cause ∧
      e = .file { cause, path := p.text } := by
  unfold entryOf? at h
  split at h
  next => cases h
  next hnull =>
    refine ⟨by simpa using hnull, ?_⟩
    split at h
    next => cases h
    next cause hlocate =>
      split at h
      next => cases h
      next habsent =>
        cases h
        exact ⟨cause, by simpa using habsent, hlocate, rfl⟩

theorem entryOf?_error (h : fs.entryOf? p = .error e) :
    ∃ fault, e = .file fault := by
  obtain ⟨-, cause, -, -, rfl⟩ := locate_of_entryOf?_error h
  exact ⟨_, rfl⟩

/-- Whatever is asked about what there is at a path. -/
theorem entryOf?_of_map_error {α : Type} {f : Option Entry → α}
    (h : (fs.entryOf? p).map f = .error e) : fs.entryOf? p = .error e := by
  cases hentry : fs.entryOf? p with
  | ok _ =>
    rw [hentry] at h
    cases h
  | error _ =>
    rw [hentry] at h
    cases h
    rfl

theorem pathExists_error (h : fs.pathExists p = .error e) :
    ∃ fault, e = .file fault :=
  entryOf?_error (entryOf?_of_map_error h)

/-- If a file is not read, it is because of the file system, unless its path is
one that no file can have. -/
theorem readBytes_error (h : fs.readBytes p = .error e) :
    (hasNull p.text = true ∧ e = .nullInPath) ∨ ∃ fault, e = .file fault := by
  unfold readBytes at h
  split at h
  next hnull =>
    cases h
    exact .inl ⟨hnull, rfl⟩
  next =>
    right
    split at h <;> cases h <;> exact ⟨_, rfl⟩

/-- Only a name that is too long cannot be looked for. -/
theorem eq_of_pathExists_error (h : fs.pathExists p = .error e) :
    e = .file { cause := .nameTooLong, path := p.text } := by
  obtain ⟨-, cause, habsent, hlocate, rfl⟩ :=
    locate_of_entryOf?_error (entryOf?_of_map_error h)
  rcases locate_toRead_error hlocate with hmeans | rfl
  · cases habsent.symm.trans hmeans
  · rfl

/-- What cannot be looked for cannot be read, for the same reason. -/
theorem readBytes_of_pathExists_error (h : fs.pathExists p = .error e) :
    fs.readBytes p = .error e := by
  obtain ⟨hnull, cause, -, hlocate, rfl⟩ :=
    locate_of_entryOf?_error (entryOf?_of_map_error h)
  simp [readBytes, hnull, hlocate, refuse]

/-! ## Changing -/

end ShaderBindings.File.System
