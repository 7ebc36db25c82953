import ShaderBindings.Binding.Drawing
import ShaderBindings.Binding.Parameters
import ShaderBindings.Proofs.Binding.Compilation
import ShaderBindings.Proofs.Conversion.Overflow
import ShaderBindings.Proofs.Table

/-!
# Binding — Parameters

What comes of storing a value for a uniform. It is stored as its converter
gives it, in one field of one instance; or it is refused, by the name or by the
value, and nothing changes. Two things are no refusals: a number out of the
range of arithmetic, and a class that its methods do not find by its name.
-/

namespace ShaderBindings.Binding

variable {σ : Type} {plan : Plan} {k : State} {self name : String}

/-! ## Names -/

theorem unnamed_of_private {other : String}
    (h : privateName? plan.options.className = some other) :
    Unnamed plan other :=
  fun m => by simp [Method.meaning, h]

/-- A wide underscore is an underscore in normal form. -/
example : privateName? "_\uff3fL" = some "_L__L" := by
  decide +kernel

/-- The class is found by its name exactly if the name is not private to it. -/
theorem NameFree.named_iff (h : NameFree plan) :
    Named plan ↔ privateName? plan.options.className = none := by
  cases hprivate : privateName? plan.options.className with
  | none =>
    refine iff_of_true (fun m => ?_) rfl
    obtain ⟨hparameters, hvariables⟩ := h m
    simp [Method.meaning, hprivate, hparameters, hvariables]
  | some other =>
    refine iff_of_false (fun hname => ?_) (by simp)
    exact hname.not_unnamed (unnamed_of_private hprivate)

/-- The built-in names that methods read. -/
def builtinNames : List String := ["KeyError", "getattr", "int"]

/-- The name of the class is none of the names that its methods bind or
read. -/
structure Unclashing (plan : Plan) : Prop where
  bound : NameFree plan
  read : knownName plan ∉ builtinNames

@[simp] theorem knownName_default (uniforms : List PlannedUniform)
    (attributes : List PlannedAttribute) (stages : List PlannedStage) :
    knownName ⟨{}, uniforms, attributes, stages⟩ = "Shader" := by
  have hascii : "Shader".toList.all (·.toNat < 0x80) = true := by decide
  rw [knownName, Text.normalForm, if_pos hascii]

theorem privateName?_default :
    privateName? ({} : Options).className = none := by
  decide +kernel

/-- The name that a class has by default clashes with none. -/
theorem unclashing_default (uniforms : List PlannedUniform)
    (attributes : List PlannedAttribute) :
    Unclashing ⟨{}, uniforms, attributes, []⟩ where
  bound := by
    intro m
    cases m <;> simp [Method.parameters, Method.ownVariables]
  read := by simp [builtinNames]

theorem Unclashing.hides_eq_false (h : Unclashing plan) {builtin : String}
    (hb : builtin ∈ builtinNames) : hides plan builtin = false := by
  unfold hides
  refine beq_false_of_ne ?_
  rintro rfl
  exact h.read hb

theorem Unclashing.lookupError_eq (h : Unclashing plan) (e : Error) :
    lookupError plan e = e := by
  unfold lookupError
  rw [h.hides_eq_false (by simp [builtinNames]), if_neg Bool.false_ne_true]

theorem uniformNamed?_eq_none_iff :
    uniformNamed? plan name = none ↔ name ∉ uniformNames plan := by
  simp [uniformNamed?, uniformNames]

/-! ## Fields of instances -/

/-- The instance of a name. -/
def State.instanceNamed (k : State) (plan : Plan) (self : String) : Instance :=
  (k.instances.lookup self).getD (.initial plan)

/-- The state in which an instance holds a value for a uniform. -/
def State.withValue (k : State) (plan : Plan) (self id : String)
    (stored : Stored) : State :=
  let i := k.instanceNamed plan self
  let fields := Table.insert id stored i.fields
  { k with instances := Table.insert self { i with fields } k.instances }

/-- The transpose flag of every instance is as it was. -/
theorem instanceNamed_withValue_self (id : String) (stored : Stored) :
    (k.withValue plan self id stored).instanceNamed plan self =
      { k.instanceNamed plan self with
        fields :=
          Table.insert id stored (k.instanceNamed plan self).fields } := by
  simp [State.withValue, State.instanceNamed, Table.lookup_insert_self]

theorem instanceNamed_withValue_of_ne {other : String} (h : other ≠ self)
    (id : String) (stored : Stored) :
    (k.withValue plan self id stored).instanceNamed plan other =
      k.instanceNamed plan other := by
  simp [State.withValue, State.instanceNamed, Table.lookup_insert_of_ne h]

/-- What is stored for a uniform is what its field holds. -/
theorem fieldOf_withValue_self (u : PlannedUniform) (stored : Stored) :
    fieldOf ((k.withValue plan self u.id stored).instanceNamed plan self) u =
      stored := by
  rw [instanceNamed_withValue_self]
  simp [fieldOf, Table.lookup_insert_self]

/-- The other fields, and those of the other instances, hold what they
held. -/
theorem fieldOf_withValue_of_ne {other id : String} {u : PlannedUniform}
    (h : other ≠ self ∨ u.id ≠ id) (stored : Stored) :
    fieldOf ((k.withValue plan self id stored).instanceNamed plan other) u =
      fieldOf (k.instanceNamed plan other) u := by
  by_cases hself : other = self
  · subst hself
    have hid : u.id ≠ id := h.resolve_left fun hne => hne rfl
    rw [instanceNamed_withValue_self]
    simp [fieldOf, Table.lookup_insert_of_ne hid]
  · rw [instanceNamed_withValue_of_ne hself]

/-! ## Storing -/

/-- All that can come of storing a value for the uniform of a name. -/
inductive Storing (plan : Plan) (k : State) (self name : String)
    (value : Value) : Except Error Unit → State → Prop
  | stored {u : PlannedUniform} {stored : Stored} (hname : Named plan)
      (hu : uniformNamed? plan name = some u)
      (h : u.type.converter.convert value = .ok stored) :
    Storing plan k self name value (.ok ())
      (k.withValue plan self u.id stored)
  | unknown (hname : Named plan) (h : name ∉ uniformNames plan) :
    Storing plan k self name value (.error (.unknownUniform name)) k
  | notStored {u : PlannedUniform} {fault : Conversion.Fault}
      (hname : Named plan) (hu : uniformNamed? plan name = some u)
      (h : u.type.converter.convert value = .error fault)
      (hrange : ¬ u.type.converter.Overflows value) :
    Storing plan k self name value
      (.error (.notStored name value.typeName fault)) k
  /-- The value is out of the range of arithmetic, which is no refusal. -/
  | overflow {u : PlannedUniform} (hname : Named plan)
      (hu : uniformNamed? plan name = some u)
      (h : u.type.converter.Overflows value) :
    Storing plan k self name value (.error (.conversion .overflow)) k
  /-- The class is not found by its name, whatever is to be stored. -/
  | notFound {other : String} (h : Unnamed plan other) :
    Storing plan k self name value (.error (.undefinedName other)) k

theorem storeError_eq {value : Value} {fault : Conversion.Fault}
    (h : fault ≠ .overflow) :
    storeError name value fault = .notStored name value.typeName fault := by
  cases fault with
  | overflow => exact (h rfl).elim
  | expected type found | outOfRange n | unprintable n | expectedArray shape
  | wrongShape shape found | ragged | tooDeep | notNumeric | badNumeral
  | notANumber => rfl

/-- A value that can be converted is stored. -/
theorem setParameter_of_convert (hname : Named plan) {u : PlannedUniform}
    {value : Value} {stored : Stored} (hu : uniformNamed? plan name = some u)
    (h : u.type.converter.convert value = .ok stored) (self : String)
    (s : Session σ) (k : State) : setParameter plan self name value (s, k) =
      (.ok (), s, k.withValue plan self u.id stored) := by
  unfold setParameter uniformNamed
  rw [reach_of_named hname, pure_bind, hu]
  simp only [Act.ofExcept_ok, pure_bind, h]
  rfl

theorem setParameter_storing_of_named (hclash : Unclashing plan)
    (hname : Named plan) (self name : String) (value : Value)
    (s : Session σ) (k : State) :
    ∃ r k', setParameter plan self name value (s, k) = (r, s, k') ∧
      Storing plan k self name value r k' := by
  cases hu : uniformNamed? plan name with
  | none =>
    unfold setParameter uniformNamed
    rw [reach_of_named hname, pure_bind, hu]
    refine ⟨_, k, rfl, ?_⟩
    rw [hclash.lookupError_eq]
    exact .unknown hname (uniformNamed?_eq_none_iff.mp hu)
  | some u =>
    cases h : u.type.converter.convert value with
    | ok stored =>
      exact ⟨_, _, setParameter_of_convert hname hu h self s k,
        .stored hname hu h⟩
    | error fault =>
      unfold setParameter uniformNamed
      rw [reach_of_named hname, pure_bind, hu]
      simp only [Act.ofExcept_ok, pure_bind, h]
      refine ⟨_, k, rfl, ?_⟩
      by_cases hrange : u.type.converter.Overflows value
      · have hfault := (u.type.converter.convert_overflow_iff value).mpr hrange
        rw [h] at hfault
        cases hfault
        exact .overflow hname hu hrange
      · rw [storeError_eq]
        · exact .notStored hname hu h hrange
        · rintro rfl
          exact hrange ((u.type.converter.convert_overflow_iff value).mp h)

theorem setParameter_storing (hclash : Unclashing plan) (self name : String)
    (value : Value) (s : Session σ) (k : State) :
    ∃ r k', setParameter plan self name value (s, k) = (r, s, k') ∧
      Storing plan k self name value r k' := by
  obtain hname | ⟨other, h⟩ := hclash.bound.named_or_unnamed
  · exact setParameter_storing_of_named hclash hname self name value s k
  · refine ⟨_, k, ?_, .notFound h⟩
    unfold setParameter
    rw [reach_of_unnamed h]
    rfl

/-- What a caller is told who does not want errors: whether the value was
stored. Only a refusal is no error. -/
def told : Except Error Unit → Except Error Bool
  | .ok _ => .ok true
  | .error e => if isRefusal e then .ok false else .error e

theorem trySetParameter_eq {value : Value} {s s' : Session σ} {k' : State}
    {r : Except Error Unit}
    (h : setParameter plan self name value (s, k) = (r, s', k')) :
    trySetParameter plan self name value (s, k) = (told r, s', k') := by
  unfold trySetParameter
  simp only [Bind.bind, Act.bind, Act.attempt, h]
  cases r with
  | ok _ => rfl
  | error e =>
    simp only [told]
    cases isRefusal e <;> rfl

theorem told_eq_true_iff {r : Except Error Unit} :
    told r = .ok true ↔ r = .ok () := by
  cases r with
  | ok _ => simp [told]
  | error e =>
    simp only [told, reduceCtorEq, iff_false]
    split <;> simp

namespace Storing

variable {value : Value} {r : Except Error Unit} {k' : State}

theorem of_ok (h : Storing plan k self name value (.ok ()) k') :
    ∃ u stored, uniformNamed? plan name = some u ∧
      u.type.converter.convert value = .ok stored ∧
      k' = k.withValue plan self u.id stored := by
  cases h with
  | stored hname hu h => exact ⟨_, _, hu, h, rfl⟩

/-- In all cases but one nothing changes. -/
theorem eq_of_error {e : Error}
    (h : Storing plan k self name value (.error e) k') : k' = k := by
  cases h with
  | unknown _ _ | notStored _ _ _ _ | overflow _ _ _ | notFound _ => rfl

theorem told_ok_iff (h : Storing plan k self name value r k') :
    (∃ stored, told r = .ok stored) ↔ Named plan ∧
      ∀ u, uniformNamed? plan name = some u →
        ¬ u.type.converter.Overflows value := by
  cases h with
  | @stored u stored hname hu h =>
    refine ⟨fun _ => ⟨hname, ?_⟩, fun _ => ⟨true, rfl⟩⟩
    intro u' hu' hrange
    cases hu.symm.trans hu'
    rw [(u.type.converter.convert_overflow_iff value).mpr hrange] at h
    cases h
  | unknown hname h =>
    refine ⟨fun _ => ⟨hname, ?_⟩, fun _ => ⟨false, rfl⟩⟩
    intro u hu
    rw [uniformNamed?_eq_none_iff.mpr h] at hu
    cases hu
  | @notStored u fault hname hu h hrange =>
    refine ⟨fun _ => ⟨hname, ?_⟩, fun _ => ⟨false, rfl⟩⟩
    intro u' hu'
    cases hu.symm.trans hu'
    exact hrange
  | overflow hname hu h =>
    refine ⟨?_, fun hall => (hall.2 _ hu h).elim⟩
    rintro ⟨stored, ⟨⟩⟩
  | notFound h =>
    refine ⟨?_, fun hall => (hall.1.not_unnamed h).elim⟩
    rintro ⟨stored, ⟨⟩⟩

end Storing

/-- Storing a value changes the field of the uniform, or nothing. It is told
without an error whether the value was stored, exactly if the name of the class
is not private to it and the value is not out of the range of arithmetic for
the uniform. -/
theorem setParameter_outcome (hclash : Unclashing plan) (self name : String)
    (value : Value) (s : Session σ) (k : State) :
    ∃ r k', setParameter plan self name value (s, k) = (r, s, k') ∧
      Storing plan k self name value r k' ∧
      (∀ e, r = .error e → k' = k) ∧
      trySetParameter plan self name value (s, k) = (told r, s, k') ∧
      (told r = .ok true ↔ r = .ok ()) ∧
      ((∃ stored, told r = .ok stored) ↔
        privateName? plan.options.className = none ∧
          ∀ u, uniformNamed? plan name = some u →
            ¬ u.type.converter.Overflows value) := by
  obtain ⟨r, k', hrun, h⟩ :=
    setParameter_storing hclash self name value s k
  rw [← hclash.bound.named_iff]
  refine ⟨r, k', hrun, h, ?_, trySetParameter_eq hrun, told_eq_true_iff,
    h.told_ok_iff⟩
  rintro e rfl
  exact h.eq_of_error

/-- Storing an integer that is too large for a double is an error even for those
who do not want errors. -/
theorem setParameter_outcome_unbounded :
    let plan : Plan := ⟨{}, [⟨"f", "f", .scalar .float, none⟩], [], []⟩
    let k : State := { shared := Shared.initial plan }
    let value : Value := .int (10 ^ 400)
    Unclashing plan ∧
      ∃ r k', setParameter plan "a" "f" value ((⟨0, [], []⟩ : Session Nat), k) =
          (r, ⟨0, [], []⟩, k') ∧
        Storing plan k "a" "f" value r k' ∧
        ¬ ∃ stored, told r = .ok stored := by
  intro plan k value
  have hclash : Unclashing plan := unclashing_default _ _
  obtain ⟨r, k', hrun, hstoring, -, -, -, htold⟩ :=
    setParameter_outcome hclash "a" "f" value (⟨0, [], []⟩ : Session Nat) k
  refine ⟨hclash, r, k', hrun, hstoring, ?_⟩
  rw [htold]
  rintro ⟨-, hrange⟩
  have hunbounded : Conversion.Unbounded (10 ^ 400) := by
    unfold Conversion.Unbounded
    decide +kernel
  exact hrange ⟨"f", "f", .scalar .float, none⟩ rfl (.integer hunbounded)

end ShaderBindings.Binding
