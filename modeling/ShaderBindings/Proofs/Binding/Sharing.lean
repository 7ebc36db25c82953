import Mathlib.Data.List.Nodup
import ShaderBindings.Proofs.Binding.Ownership

/-!
# Binding — Sharing

Whose the references to the shared program are. They are counted together, and
the count does not tell by whom each was taken. As long as every instance gives
back only what it has taken, the program is there for all that hold a reference.
An instance that gives back more takes the program away from the others.
-/

namespace ShaderBindings.Binding

variable {σ : Type} {plan : Plan} {k k' : State} {es : List GL.Event}
variable {hs : List String} {uses : List Use}
variable {results : List (Except Error Unit)}

/-! ## Holders -/

/-- The instances that hold a reference after a use, each as often as it has
taken one without giving it back. A new instance holds none. -/
def Use.holders (hs : List String) : Use → Except Error Unit → List String
  | .create self, .ok _ => hs.filter (· ≠ self)
  | .compile self, .ok _ | .recompile self, .ok _ | .enter self, .ok _ =>
    self :: hs
  | .dispose self, .ok _ | .leave self, .ok _ => hs.erase self
  | _, _ => hs

/-- The instances that hold a reference after uses, with what came of each. -/
def holdersAfter (hs : List String) :
    List Use → List (Except Error Unit) → List String
  | u :: uses, r :: results => holdersAfter (u.holders hs r) uses results
  | _, _ => hs

/-- If the use gives back a reference, it is one that its instance holds. -/
def Use.Fair (hs : List String) : Use → Prop
  | .dispose self | .leave self => self ∈ hs
  | _ => True

/-- Every use that does not fail is fair when it is made. -/
def Fair (hs : List String) : List Use → List (Except Error Unit) → Prop
  | u :: uses, r :: results =>
    (r = .ok () → u.Fair hs) ∧ Fair (u.holders hs r) uses results
  | _, _ => True

/-- After a fair use there are at least as many references out as are held. -/
theorem Use.holders_length_le {u : Use} {r : Except Error Unit} {l : Ledger}
    (hfair : r = .ok () → u.Fair hs) (h : hs.length ≤ l.count) :
    (u.holders hs r).length ≤ (l.note u r).count := by
  cases r with
  | error e => cases u <;> exact h
  | ok _ =>
    cases u with
    | create self => exact Nat.le_trans (List.length_filter_le _ hs) h
    | compile self | recompile self | enter self => exact Nat.succ_le_succ h
    | dispose self | leave self =>
      have hmem : self ∈ hs := hfair rfl
      show (hs.erase self).length ≤ l.count - 1
      rw [List.length_erase_of_mem hmem]
      omega
    | edit files => exact h

theorem holdersAfter_length_le {l : Ledger} (hfair : Fair hs uses results)
    (h : hs.length ≤ l.count) :
    (holdersAfter hs uses results).length ≤ (l.after uses results).count := by
  induction uses generalizing hs l results with
  | nil => exact h
  | cons u rest ih =>
    cases results with
    | nil => exact h
    | cons r more => exact ih hfair.2 (Use.holders_length_le hfair.1 h)

theorem holdersAfter_append_dispose {self other : String}
    (hlength : results.length = uses.length) (hne : self ≠ other)
    (h : self ∈ holdersAfter hs uses results) :
    self ∈ holdersAfter hs (uses ++ [.dispose other]) (results ++ [.ok ()]) := by
  induction uses generalizing hs results with
  | nil =>
    obtain rfl : results = [] := List.length_eq_zero_iff.mp hlength
    exact (List.mem_erase_of_ne hne).mpr h
  | cons u rest ih =>
    cases results with
    | nil => simp at hlength
    | cons r more => exact ih (by simpa using hlength) h

/-! ## The program as instances see it -/

theorem shaderId_eq (hname : Named plan) (self : String) (s : Session σ)
    (k : State) :
    shaderId plan self (s, k) =
      (if k.shared.program = 0 then
        .error (.notInitialized (ModuleText.qualifiedName plan.options))
      else .ok k.shared.program, s, k) := by
  simp only [shaderId, reach_of_named hname, seenProgram_of_named hname,
    pure_bind, Act.bind_assoc]
  by_cases h : k.shared.program = 0
  · show (if k.shared.program = 0 then _ else _ : Work σ Int) (s, k) = _
    rw [if_pos h, if_pos h]
    rfl
  · show (if k.shared.program = 0 then _ else _ : Work σ Int) (s, k) = _
    rw [if_neg h, if_neg h]
    rfl

/-- An instance has the program: it was created and not deleted, and the
instance gives its handle. -/
structure Has (σ : Type) (plan : Plan) (es : List GL.Event) (k : State)
    (self : String) : Prop where
  created : k.shared.program ∈ GL.programsCreated es
  kept : k.shared.program ∉ GL.programsDeleted es
  handle : ∀ s : Session σ,
    shaderId plan self (s, k) = (.ok k.shared.program, s, k)

/-- An instance has no program: it tells so when it is asked for the handle. -/
def HasNone (σ : Type) (plan : Plan) (k : State) (self : String) : Prop :=
  ∀ s : Session σ, shaderId plan self (s, k) =
    (.error (.notInitialized (ModuleText.qualifiedName plan.options)), s, k)

/-- The last reference is taken from whoever holds it by a disposal of any
instance: the program is deleted, and no instance has one. -/
def Taken (gl : GL.Device σ) (plan : Plan) (k : State) (other : String)
    (s : Session σ) : Prop :=
  ∃ s' k', (Use.dispose other).act gl plan (s, k) = (.ok (), s', k') ∧
    s'.trace = s.trace ++ [.gl ⟨.deleteProgram k.shared.program, .ok ()⟩] ∧
    ∀ self, HasNone σ plan k' self

theorem taken_of_count_eq_one {gl : GL.Device σ}
    (hgl : ∀ call, gl.Answers call) (hname : Named plan)
    (hone : k.shared.references.count = 1) (other : String) (s : Session σ) :
    Taken gl plan k other s := by
  obtain ⟨es, _, s', k', hrun, htrace, -, rfl, hd⟩ :=
    dispose_makes hgl hname k s
  refine ⟨s', k', hrun, ?_⟩
  cases hd with
  | notHeld h | shared h => omega
  | last _ =>
    refine ⟨htrace, fun self s => ?_⟩
    rw [shaderId_eq hname]
    rfl

theorem AllDone.hidden (hd : AllDone plan k uses es results k')
    (h : Hidden plan k.shared) : Hidden plan k'.shared := by
  induction hd with
  | nil => exact h
  | cons hdone _ ih => exact ih (hdone.hidden h)

theorem AllDone.length_eq (hd : AllDone plan k uses es results k') :
    results.length = uses.length := by
  induction hd with
  | nil => rfl
  | cons _ _ ih => simp [ih]

/-- A class of which references are out is found by its name. -/
theorem Hidden.named (h : Hidden plan k.shared) (hfree : NameFree plan)
    (hcount : k.shared.references.count ≠ 0) : Named plan := by
  rcases hfree.named_or_unnamed with hname | ⟨name, hunnamed⟩
  · exact hname
  · exact absurd (h name hunnamed).2 hcount

/-! ## Who has the program -/

/-- Who has the program after uses, by what came of them. -/
structure Shares (gl : GL.Device σ) (plan : Plan) (uses : List Use)
    (results : List (Except Error Unit)) (es : List GL.Event) (s : Session σ)
    (k : State) : Prop where
  /-- If no use gave back what its instance did not hold, every holder has the
  program. -/
  fair : Fair [] uses results → ∀ self ∈ holdersAfter [] uses results,
    Has σ plan es k self
  /-- If the last reference is out, whoever holds it has the program up to the
  next disposal of any other instance. -/
  unfair : k.shared.references.count = 1 →
    ∀ self ∈ holdersAfter [] uses results, ∀ other ≠ self,
      Has σ plan es k self ∧ Taken gl plan k other s ∧
      self ∈ holdersAfter [] (uses ++ [.dispose other]) (results ++ [.ok ()])

/-- Whatever instances do, in whatever order: as long as all of them are fair,
those that hold a reference have the program. One that is not takes it away
from the others. A device never fails and gives out fresh handles, and no
recompilation has been interrupted. -/
theorem useAll_shares {gl : GL.Device σ} (hgl : ∀ call, gl.Answers call)
    (hfree : NameFree plan) (documentation : Option String)
    (files : File.System) (uses : List Use) (s : Session σ) :
    ∃ es results s' k,
      useAll gl plan uses
          (s, { shared := { Shared.initial plan with documentation }, files }) =
        (.ok results, s', k) ∧
      s'.trace = s.trace ++ es.map .gl ∧
      (Fresh es → (Ledger.after {} uses results).interrupted = false →
        Shares gl plan uses results es s' k) := by
  obtain ⟨es, _, s', k, hrun, htrace, -, results, rfl, hdone⟩ :=
    useAll_makes hgl hfree uses
      { shared := { Shared.initial plan with documentation }, files } s
  refine ⟨es, results, s', k, hrun, htrace, fun hfresh hkept => ?_⟩
  have hbegin : Hidden plan { Shared.initial plan with documentation } :=
    fun _ _ => ⟨rfl, rfl⟩
  have hinit : Inv [] {} { Shared.initial plan with documentation } :=
    ⟨⟨rfl, shadersLived_nil⟩, rfl, by simp [Shared.initial]⟩
  have hinv := hdone.inv hbegin hinit hfresh
  have hhidden := hdone.hidden hbegin
  -- a count that is not zero is all that an instance needs
  have hhas (hcount : k.shared.references.count ≠ 0) (self : String) :
      Has σ plan es k self := by
    have hprogram : k.shared.program ≠ 0 := by
      rw [hinv.count] at hcount
      exact hinv.held.mpr ⟨by omega, hkept⟩
    obtain ⟨hcreated, hdeleted⟩ :=
      (hinv.owned.live hfresh k.shared.program).mpr ⟨rfl, hprogram⟩
    refine ⟨hcreated, hdeleted, fun s => ?_⟩
    rw [shaderId_eq (hhidden.named hfree hcount), if_neg hprogram]
  refine ⟨fun hfair self hself => hhas ?_ self, ?_⟩
  · have hlength := holdersAfter_length_le (l := {}) hfair (Nat.zero_le _)
    have hpos := List.length_pos_of_mem hself
    rw [hinv.count]
    show (Ledger.after {} uses results).count ≠ 0
    omega
  · intro hone self hself other hne
    have hcount : k.shared.references.count ≠ 0 := by omega
    exact ⟨hhas hcount self,
      taken_of_count_eq_one hgl (hhidden.named hfree hcount) hone other s',
      holdersAfter_append_dispose hdone.length_eq hne.symm hself⟩

/-- The first instance has compiled the program. A second one, which never has,
can take it away. -/
theorem useAll_shares_pair :
    let gl := GL.Device.numbering (fun _ => false) []
    let plan : Plan := ⟨{}, [], [], [⟨⟨"a.vert", .vertex, ""⟩, "vertex"⟩]⟩
    let uses : List Use := [.create "a", .create "b", .compile "a"]
    ∃ es results s' k,
      useAll gl plan uses (⟨0, [], []⟩, { shared := Shared.initial plan }) =
        (.ok results, s', k) ∧
      s'.calls = es ∧ Shares gl plan uses results es s' k ∧
      Fair [] uses results ∧ Has Nat plan es k "a" ∧ Taken gl plan k "b" s' := by
  intro gl plan uses
  have hgl (call : GL.Call) : gl.Answers call :=
    GL.Device.numbering_answers rfl
  have hfree : NameFree plan := by
    intro m
    cases m <;> decide +kernel
  obtain ⟨es, results, s', k, hrun, htrace, h⟩ :=
    useAll_shares hgl hfree none {} uses ⟨0, [], []⟩
  have hcalls : s'.calls = es := Session.calls_eq htrace
  have hresults : results = [.ok (), .ok (), .ok ()] := by
    have hok : (useAll gl plan uses (⟨0, [], []⟩,
        { shared := Shared.initial plan })).1 =
        .ok [.ok (), .ok (), .ok ()] := by
      decide +kernel
    exact Except.ok.inj ((congrArg Prod.fst hrun).symm.trans hok)
  have hs' : (useAll gl plan uses
      (⟨0, [], []⟩, { shared := Shared.initial plan })).2.1 = s' :=
    congrArg (fun x => x.2.1) hrun
  have hk : (useAll gl plan uses
      (⟨0, [], []⟩, { shared := Shared.initial plan })).2.2 = k :=
    congrArg (fun x => x.2.2) hrun
  have hcreated : GL.programsCreated es = [1] ∧ GL.shadersCreated es = [2] := by
    rw [← hcalls, ← hs']
    decide +kernel
  have hfresh : Fresh es := by
    obtain ⟨hprograms, hshaders⟩ := hcreated
    exact ⟨by rw [hprograms]; decide, by rw [hprograms]; decide,
      by rw [hshaders]; decide⟩
  have hone : k.shared.references.count = 1 := by
    rw [← hk]
    decide +kernel
  subst hresults
  have hshares := h hfresh (by decide)
  have hself : "a" ∈ holdersAfter [] uses [.ok (), .ok (), .ok ()] := by decide
  obtain ⟨hhas, htaken, -⟩ := hshares.unfair hone "a" hself "b" (by decide)
  exact ⟨es, _, s', k, hrun, hcalls, hshares, by simp [Fair, uses, Use.Fair],
    hhas, htaken⟩

end ShaderBindings.Binding
