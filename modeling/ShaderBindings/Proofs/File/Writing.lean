import ShaderBindings.Proofs.File.Refusals
import ShaderBindings.Proofs.File.Walking

/-!
# Files — Writing

What making directories and writing a file changes. Making directories puts
directories where there was nothing, and where paths lead that are above the one
that is asked for. Writing changes the file that the path leads to afterwards,
and nothing else.
-/

namespace ShaderBindings.File

variable {fs fs' fs'' : System} {p : Path} {location other : Location}

/-! ## Putting -/

namespace System

theorem walkNames_entry {purpose : Purpose} {here : Location}
    {follow : Location → List String → Except Cause Found}
    (hfollow : ∀ origin names found, follow origin names = .ok found →
      fs.entryAt found.location = found.entry)
    {names : List String} {found : Found}
    (h : fs.walkNames purpose follow here names = .ok found) :
    fs.entryAt found.location = found.entry := by
  induction names generalizing here with
  | nil =>
    cases h
    rfl
  | cons name rest ih =>
    obtain ⟨-, hstep⟩ := stepped h
    cases hstep with
    | blank _ h | up _ h | entered _ _ _ h => exact ih h
    | followed _ _ h => exact hfollow _ _ _ h
    | ended _ hthere _ hfound | placed _ hthere hfound =>
      rw [hfound]
      exact hthere

theorem walk_entry {purpose : Purpose} {links : Nat} {here : Location}
    {names : List String} {found : Found}
    (h : fs.walk purpose links here names = .ok found) :
    fs.entryAt found.location = found.entry := by
  induction links generalizing here names found with
  | zero =>
    refine walkNames_entry ?_ h
    intro origin names found herror
    cases herror
  | succ links ih => exact walkNames_entry (fun _ _ _ => ih) h

/-- A walk tells what is where it ends. -/
theorem locate_entry {purpose : Purpose} {text : String} {found : Found}
    (h : fs.locate purpose text = .ok found) :
    fs.entryAt found.location = found.entry := by
  unfold locate at h
  split at h
  next => cases h
  next =>
    split at h
    next => cases h
    next => exact walk_entry h

/-- Whatever is put in the place of something else than a directory leaves the
walks that lead there. -/
theorem keeps_put (h : fs.entryAt location ≠ some .directory) (entry : Entry) :
    Keeps fs (fs.put location entry) location where
  current := rfl
  directories := by
    intro there hthere
    have hne : there ≠ location := by
      rintro rfl
      exact h hthere
    rw [entryAt_put_of_ne hne, hthere]
  links := by
    intro there target hne hthere
    rw [entryAt_put_of_ne hne, hthere]

/-! ## Making directories -/

/-- There was nothing, and now there is a directory to which a path leads that
is the given one or above it. -/
structure IsNew (p : Path) (fs fs' : System) (location : Location) : Prop where
  before : fs.entryAt location = none
  after : fs'.entryAt location = some .directory
  leads : ∃ names, names <+: p.names ∧
    fs'.locate .toRead (Path.text ⟨p.root, names⟩) =
      .ok ⟨location, some .directory⟩

/-- Nothing has changed but for new directories on the way to a path. -/
structure MakesWay (p : Path) (fs fs' : System) : Prop where
  current : fs'.current = fs.current
  entries : ∀ location, fs'.entryAt location = fs.entryAt location ∨
    IsNew p fs fs' location

theorem MakesWay.refl (p : Path) (fs : System) : MakesWay p fs fs :=
  ⟨rfl, fun _ => .inl rfl⟩

theorem MakesWay.above {names : List String} {name : String} {root : Root}
    (h : MakesWay ⟨root, names⟩ fs fs') :
    MakesWay ⟨root, names ++ [name]⟩ fs fs' := by
  refine ⟨h.current, fun location => (h.entries location).imp_right ?_⟩
  rintro ⟨hbefore, hafter, others, hprefix, hleads⟩
  exact ⟨hbefore, hafter, others, hprefix.trans (List.prefix_append _ _),
    hleads⟩

/-- One more directory is made, where the path leads. -/
theorem MakesWay.put (h : MakesWay p fs fs')
    (hplace : fs'.locate .toPlace p.text = .ok ⟨location, none⟩) :
    MakesWay p fs (fs'.put location .directory) := by
  have hnone : fs'.entryAt location = none := locate_entry hplace
  have hdirectory : fs'.entryAt location ≠ some .directory := by simp [hnone]
  have hself : (fs'.put location .directory).entryAt location =
      some .directory :=
    entryAt_put_self (ne_nil_of_entryAt hdirectory) _
  refine ⟨h.current, fun there => ?_⟩
  by_cases hthere : there = location
  · subst hthere
    have hbefore : fs.entryAt there = none := by
      obtain hsame | hnew := h.entries there
      · rw [← hsame, hnone]
      · exact absurd hnew.after hdirectory
    refine .inr ⟨hbefore, hself, p.names, List.prefix_refl _, ?_⟩
    exact locate_again (keeps_put hdirectory _) hself (by simp)
      (.inr (by simp [hnone])) hplace
  · rw [entryAt_put_of_ne hthere]
    obtain hsame | ⟨hbefore, hafter, names, hprefix, hleads⟩ := h.entries there
    · exact .inl hsame
    · have hafter' : (fs'.put location .directory).entryAt there =
          some .directory := by
        rw [entryAt_put_of_ne hthere, hafter]
      -- nothing is put where there is a link
      have hkeeps : Keeps fs' (fs'.put location .directory) there := by
        obtain ⟨hcurrent, hdirectories, hlinks⟩ :=
          keeps_put hdirectory .directory
        refine ⟨hcurrent, hdirectories, fun there target _ hlink => ?_⟩
        refine hlinks there target ?_ hlink
        rintro rfl
        rw [hnone] at hlink
        cases hlink
      exact .inr ⟨hbefore, hafter', names, hprefix,
        locate_again hkeeps hafter' (by simp) (.inl (by simp)) hleads⟩

theorem makeDirectory_ok (h : fs.makeDirectory p = .ok fs') :
    fs' = fs ∨ ∃ location, fs.locate .toPlace p.text = .ok ⟨location, none⟩ ∧
      fs' = fs.put location .directory := by
  unfold makeDirectory at h
  split at h
  next => cases h
  next =>
    split at h
    next made hentry =>
      cases h
      unfold makeEntry at hentry
      split at hentry
      next => cases hentry
      next => cases hentry
      next location hplace =>
        cases hentry
        exact .inr ⟨location, hplace, rfl⟩
    next => cases h
    next =>
      cases hdirectory : fs.isDirectory p with
      | error e =>
        rw [hdirectory] at h
        cases h
      | ok there =>
        rw [hdirectory] at h
        cases there with
        | true =>
          cases h
          exact .inl rfl
        | false => cases h

theorem MakesWay.makeDirectory (hway : MakesWay p fs fs')
    (h : fs'.makeDirectory p = .ok fs'') : MakesWay p fs fs'' := by
  obtain rfl | ⟨location, hplace, rfl⟩ := makeDirectory_ok h
  · exact hway
  · exact hway.put hplace

/-- A file has been written: nothing else has changed, and its path leads to
it. -/
structure Written (p : Path) (content : List UInt8) (fs fs' : System)
    (location : Location) : Prop where
  current : fs'.current = fs.current
  others : ∀ other, other ≠ location → fs'.entryAt other = fs.entryAt other
  leads : fs'.locate .toRead p.text = .ok ⟨location, some (.file content)⟩
  read : fs'.readBytes p = .ok content

end System

end ShaderBindings.File
