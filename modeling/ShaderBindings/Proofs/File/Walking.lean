import ShaderBindings.File.Access
import ShaderBindings.Proofs.Table

/-!
# Files — Walking

Where walks lead when something has been put where one of them ends. What a walk
goes through stays as it was, so the same walk leads there again.
-/

namespace ShaderBindings.File

variable {fs fs' : System} {purpose : Purpose} {found : Found}
variable {here location other : Location} {name : String} {rest : List String}
variable {follow follow' : Location → List String → Except Cause Found}

namespace System

/-! ## Entries -/

theorem ne_nil_of_entryAt (h : fs.entryAt location ≠ some .directory) :
    location ≠ [] := by
  rintro rfl
  exact h rfl

theorem entryAt_put_self (h : location ≠ []) (entry : Entry) :
    (fs.put location entry).entryAt location = some entry := by
  have hempty : location.isEmpty = false := by simpa using h
  simp [entryAt, put, hempty, Table.lookup_insert_self]

theorem entryAt_put_of_ne (h : other ≠ location) (entry : Entry) :
    (fs.put location entry).entryAt other = fs.entryAt other := by
  simp [entryAt, put, Table.lookup_insert_of_ne h]

/-! ## Names of a walk -/

/-- The name is that of something in a directory. -/
structure IsEntryName (name : String) : Prop where
  notBlank : (name == "" || name == ".") = false
  notUp : (name == "..") = false
  short : ¬ name.utf8ByteSize > maxNameBytes

/-- Where a link leads on from. -/
def originOf (target : String) (here : Location) : Location :=
  if target.toList.head? = some '/' then [] else here

/-- What a walk does with its next name. -/
inductive Stepped (fs : System) (purpose : Purpose)
    (follow : Location → List String → Except Cause Found) (here : Location)
    (name : String) (rest : List String) (found : Found) : Prop
  | blank (hname : (name == "" || name == ".") = true)
      (h : fs.walkNames purpose follow here rest = .ok found)
  | up (hname : (name == "..") = true)
      (h : fs.walkNames purpose follow here.dropLast rest = .ok found)
  | ended (hname : IsEntryName name)
      (hthere : fs.entryAt (here ++ [name]) = none)
      (hrest : rest = []) (hfound : found = ⟨here ++ [name], none⟩)
  | placed {target : String} (hpurpose : purpose = .toPlace)
      (hthere : fs.entryAt (here ++ [name]) = some (.link target))
      (hfound : found = ⟨here ++ [name], some (.link target)⟩)
  | followed {target : String} (hname : IsEntryName name)
      (hthere : fs.entryAt (here ++ [name]) = some (.link target))
      (h : follow (originOf target here) (pieces target ++ rest) = .ok found)
  | entered {entry : Entry} (hname : IsEntryName name)
      (hthere : fs.entryAt (here ++ [name]) = some entry)
      (hentry : ∀ target, entry ≠ .link target)
      (h : fs.walkNames purpose follow (here ++ [name]) rest = .ok found)

theorem stepped
    (h : fs.walkNames purpose follow here (name :: rest) = .ok found) :
    fs.entryAt here = some .directory ∧
      Stepped fs purpose follow here name rest found := by
  rw [walkNames] at h
  split at h
  next => cases h
  next hdir =>
    refine ⟨by simpa using hdir, ?_⟩
    split at h
    next hblank => exact .blank hblank h
    next hblank =>
      split at h
      next hup => exact .up hup h
      next hup =>
        split at h
        next => cases h
        next =>
          split at h
          next => cases h
          next hshort =>
            have hname : IsEntryName name :=
              ⟨by simpa using hblank, by simpa using hup, hshort⟩
            dsimp only at h
            split at h
            next hthere =>
              split at h
              next hrest =>
                cases h
                exact .ended hname hthere (by simpa using hrest) rfl
              next => cases h
            next target hthere =>
              split at h
              next hplace =>
                cases h
                simp only [Bool.and_eq_true, decide_eq_true_eq] at hplace
                exact .placed hplace.2 hthere rfl
              next => exact .followed hname hthere h
            next entry hlink hthere => exact .entered hname hthere hlink h

section Reading

variable (hdir : fs.entryAt here = some .directory)
include hdir

theorem walkNames_blank (hname : (name == "" || name == ".") = true) :
    fs.walkNames .toRead follow here (name :: rest) =
      fs.walkNames .toRead follow here rest := by
  rw [walkNames]
  simp only [hdir, bne_self_eq_false, Bool.false_eq_true, if_false, hname,
    if_true]

theorem walkNames_up (hname : (name == "..") = true) :
    fs.walkNames .toRead follow here (name :: rest) =
      fs.walkNames .toRead follow here.dropLast rest := by
  obtain rfl : name = ".." := by simpa using hname
  rw [walkNames]
  simp [hdir]

theorem walkNames_name (hname : IsEntryName name) :
    fs.walkNames .toRead follow here (name :: rest) =
      match fs.entryAt (here ++ [name]) with
      | none =>
        if rest.isEmpty then .ok ⟨here ++ [name], none⟩ else .error .missing
      | some (.link target) =>
        follow (originOf target here) (pieces target ++ rest)
      | some _ => fs.walkNames .toRead follow (here ++ [name]) rest := by
  obtain ⟨hblank, hup, hshort⟩ := hname
  rw [walkNames]
  cases hentry : fs.entryAt (here ++ [name]) with
  | none => simp [hdir, hblank, hup, hshort, hentry]
  | some entry =>
    cases entry with
    | file _ | directory | link _ =>
      simp [hdir, hblank, hup, hshort, hentry, originOf]

end Reading

/-! ## Links that are followed -/

/-- What is above a link, and the root, is not where the link is. -/
theorem not_prefix_originOf {target target' : String}
    (hlink : fs.entryAt location = some (.link target))
    (hhere : ¬ location <+: here) : ¬ location <+: originOf target' here := by
  unfold originOf
  split
  · intro hpre
    rw [List.prefix_nil.mp hpre] at hlink
    cases hlink
  · exact hhere

theorem prefix_append_singleton {l : Location}
    (h : l <+: here ++ [name]) : l <+: here ∨ l = here ++ [name] := by
  rw [List.prefix_concat_iff] at h
  exact h.symm

/-- A walk that has followed a link does not come to where the link is. -/
theorem walkNames_avoids {target : String}
    (hlink : fs.entryAt location = some (.link target))
    (hpurpose : purpose ≠ .toPlace)
    (hfollow : ∀ origin names found, ¬ location <+: origin →
      follow origin names = .ok found → ¬ location <+: found.location)
    {names : List String} (hhere : ¬ location <+: here)
    (h : fs.walkNames purpose follow here names = .ok found) :
    ¬ location <+: found.location := by
  induction names generalizing here with
  | nil =>
    cases h
    exact hhere
  | cons name rest ih =>
    have hthere (hne : fs.entryAt (here ++ [name]) ≠ some (.link target)) :
        ¬ location <+: here ++ [name] := by
      intro hpre
      obtain hpre | rfl := prefix_append_singleton hpre
      · exact hhere hpre
      · exact hne hlink
    obtain ⟨-, hstep⟩ := stepped h
    cases hstep with
    | blank _ h => exact ih hhere h
    | up _ h =>
      refine ih (fun hpre => hhere ?_) h
      exact hpre.trans (List.dropLast_prefix here)
    | ended _ hnone _ hfound =>
      subst hfound
      exact hthere (by simp [hnone])
    | placed hplace _ _ => exact (hpurpose hplace).elim
    | followed _ _ h =>
      exact hfollow _ _ _ (not_prefix_originOf hlink hhere) h
    | entered _ hentry hnot h =>
      refine ih (hthere ?_) h
      rw [hentry]
      exact fun heq => hnot target (Option.some.inj heq)

theorem walk_avoids {target : String}
    (hlink : fs.entryAt location = some (.link target))
    (hpurpose : purpose ≠ .toPlace) {links : Nat} {names : List String}
    (hhere : ¬ location <+: here)
    (h : fs.walk purpose links here names = .ok found) :
    ¬ location <+: found.location := by
  induction links generalizing here names found with
  | zero =>
    refine walkNames_avoids hlink hpurpose ?_ hhere h
    intro origin names found _ herror
    cases herror
  | succ links ih =>
    exact walkNames_avoids hlink hpurpose (fun _ _ _ => ih) hhere h

/-! ## Walking there again -/

/-- Between two file systems, what walks to a location go through stays: the
directories, and the links but for one at that location. -/
structure Keeps (fs fs' : System) (location : Location) : Prop where
  current : fs'.current = fs.current
  directories : ∀ there, fs.entryAt there = some .directory →
    fs'.entryAt there = some .directory
  links : ∀ there target, there ≠ location →
    fs.entryAt there = some (.link target) →
    fs'.entryAt there = some (.link target)

section Again

variable {before : Option Entry} {entry : Entry}
  (hkeeps : Keeps fs fs' location)
  (hentry : fs'.entryAt location = some entry)
  (hnot : ∀ target, entry ≠ .link target)
  (hpurpose : purpose ≠ .toPlace ∨
    ∀ target, fs.entryAt location ≠ some (.link target))

include hkeeps hentry hnot hpurpose

theorem walkNames_again
    (havoids : ∀ target origin names,
      fs.entryAt location = some (.link target) → ¬ location <+: origin →
      follow origin names ≠ .ok ⟨location, before⟩)
    (hfollow : ∀ origin names, follow origin names = .ok ⟨location, before⟩ →
      follow' origin names = .ok ⟨location, some entry⟩)
    {names : List String}
    (h : fs.walkNames purpose follow here names = .ok ⟨location, before⟩) :
    fs'.walkNames .toRead follow' here names =
      .ok ⟨location, some entry⟩ := by
  induction names generalizing here with
  | nil =>
    cases h
    rw [walkNames, hentry]
  | cons name rest ih =>
    obtain ⟨hdir, hstep⟩ := stepped h
    have hdir' := hkeeps.directories _ hdir
    -- the last name leads to what is there now
    have hlast (hname : IsEntryName name) (hrest : rest = [])
        (hthere : location = here ++ [name]) :
        fs'.walkNames .toRead follow' here (name :: rest) =
          .ok ⟨location, some entry⟩ := by
      subst hrest
      rw [walkNames_name hdir' hname, ← hthere, hentry]
      cases entry with
      | link target => exact (hnot target rfl).elim
      | file content | directory =>
        simp only
        rw [walkNames, hentry]
    cases hstep with
    | blank hname h => rw [walkNames_blank hdir' hname, ih h]
    | up hname h => rw [walkNames_up hdir' hname, ih h]
    | ended hname _ hrest hfound =>
      exact hlast hname hrest (congrArg Found.location hfound)
    | @placed target hplace hthere hfound =>
      have hlocation : location = here ++ [name] :=
        congrArg Found.location hfound
      rw [← hlocation] at hthere
      obtain hpurpose | hnolink := hpurpose
      · exact (hpurpose hplace).elim
      · exact (hnolink target hthere).elim
    | @followed target hname hthere h =>
      have hne : here ++ [name] ≠ location := by
        intro heq
        rw [heq] at hthere
        refine havoids target _ _ hthere (not_prefix_originOf hthere ?_) h
        intro hpre
        have hlength := hpre.length_le
        rw [← heq, List.length_append, List.length_singleton] at hlength
        omega
      rw [walkNames_name hdir' hname, hkeeps.links _ _ hne hthere]
      exact hfollow _ _ h
    | @entered old hname hthere hold h =>
      cases rest with
      | nil =>
        have hlocation : location = here ++ [name] := by
          cases h
          rfl
        exact hlast hname rfl hlocation
      | cons next others =>
        -- what has more names after it is a directory
        obtain ⟨hdirectory, -⟩ := stepped h
        have hdirectory' := hkeeps.directories _ hdirectory
        rw [walkNames_name hdir' hname, hdirectory']
        exact ih h

theorem walk_again {links : Nat} {names : List String}
    (h : fs.walk purpose links here names = .ok ⟨location, before⟩) :
    fs'.walk .toRead links here names = .ok ⟨location, some entry⟩ := by
  have havoids {follow : Location → List String → Except Cause Found}
      (hfollow : ∀ target origin names found,
        fs.entryAt location = some (.link target) → purpose ≠ .toPlace →
        ¬ location <+: origin → follow origin names = .ok found →
        ¬ location <+: found.location) :
      ∀ target origin names, fs.entryAt location = some (.link target) →
        ¬ location <+: origin →
        follow origin names ≠ .ok ⟨location, before⟩ := by
    intro target origin names hlink horigin h
    obtain hpurpose | hnolink := hpurpose
    · exact hfollow target origin names _ hlink hpurpose horigin h
        (List.prefix_refl _)
    · exact hnolink target hlink
  induction links generalizing here names with
  | zero =>
    refine walkNames_again hkeeps hentry hnot hpurpose (havoids ?_) ?_ h
    · intro target origin names found _ _ _ herror
      cases herror
    · intro origin names herror
      cases herror
  | succ links ih =>
    refine walkNames_again hkeeps hentry hnot hpurpose (havoids ?_) ?_ h
    · intro target origin names found hlink hpurpose
      exact walk_avoids hlink hpurpose
    · intro origin names
      exact ih

/-- What is at the end of a walk does not matter for the walk. -/
theorem locate_again {text : String}
    (h : fs.locate purpose text = .ok ⟨location, before⟩) :
    fs'.locate .toRead text = .ok ⟨location, some entry⟩ := by
  have hstart : fs'.start text = fs.start text := by
    unfold start
    rw [hkeeps.current]
  unfold locate at h ⊢
  split at h
  next => cases h
  next hempty =>
    split at h
    next => cases h
    next hlong =>
      rw [if_neg hempty, if_neg hlong, hstart]
      exact walk_again hkeeps hentry hnot hpurpose h

end Again

end System

end ShaderBindings.File
