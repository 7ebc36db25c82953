import ShaderBindings.Proofs.Binding.Parameters
import ShaderBindings.Proofs.Conversion.Stability

/-!
# Conversion — Integers

What uniforms of integers make of integers. Some of the integers that a value is
made of are checked against the range of a word, and if one of these is out of
it the value is refused. All the others are taken unchecked: a single integer is
stored as it is, and the numbers of an array wrap around.
-/

namespace ShaderBindings

open Number

/-! ## Values made of integers -/

namespace Value

mutual

/-- The integers that a value is made of, in order; nothing if it is made of
anything else. -/
def integers? : Value → Option (List Int)
  | .int n | .scalar (.int _ _) n => some [n]
  | .list items | .tuple items => integersAll? items
  | .array ⟨.int _ _, _, data⟩ => some data
  | _ => .none

/-- The integers that values are made of. -/
def integersAll? : List Value → Option (List Int)
  | [] => some []
  | v :: rest => do return (← v.integers?) ++ (← integersAll? rest)

end

mutual

/-- The integers that are checked when words are made of a value: those of the
calling program, and among signed words the single numbers of machine types. -/
def checked (signed : Bool) : Value → List Int
  | .int n => [n]
  | .scalar (.int _ _) n => if signed then [n] else []
  | .list items | .tuple items => checkedAll signed items
  | _ => []

/-- The integers that are checked in each of the values. -/
def checkedAll (signed : Bool) : List Value → List Int
  | [] => []
  | v :: rest => v.checked signed ++ checkedAll signed rest

end

/-- The value is a single number. -/
def isSingle : Value → Bool
  | .int _ | .scalar .. => true
  | _ => false

theorem integers?_of_isSingle {v : Value} {ns : List Int}
    (h : v.isSingle = true) (hv : v.integers? = some ns) : ∃ n, ns = [n] := by
  cases v with
  | int n =>
    cases hv
    exact ⟨n, rfl⟩
  | scalar t x =>
    cases t with
    | bool | float _ => cases hv
    | int _ _ =>
      cases hv
      exact ⟨x, rfl⟩
  | none | bool _ | float _ | text _ | bytes _ | list _ | tuple _ | dict _
  | texture _ | fraction _ _ | array _ => cases h

end Value

namespace Conversion

variable {signed : Bool} {width : Nat} {v : Value} {ns : List Int}

/-- Words are made of integers, unless one that is checked does not fit. -/
def wordsOf (signed : Bool) (width : Nat) (checked ns : List Int) :
    Except Fault (List Int) :=
  if checked.all (fits signed width) then .ok (ns.map (wrap signed width))
  else .error .overflow

theorem wordsOf_eq_ok_iff {checked xs : List Int} :
    wordsOf signed width checked ns = .ok xs ↔
      (∀ n ∈ checked, fits signed width n = true) ∧
        xs = ns.map (wrap signed width) := by
  rw [wordsOf, ← List.all_eq_true]
  by_cases h : checked.all (fits signed width) = true
  · rw [if_pos h, Except.ok.injEq]
    exact ⟨fun heq => ⟨h, heq.symm⟩, fun heq => heq.2.symm⟩
  · rw [if_neg h]
    exact iff_of_false nofun fun heq => h heq.1

theorem wordsOf_append {checked checked' ns ns' : List Int} :
    (do return (← wordsOf signed width checked ns) ++
      (← wordsOf signed width checked' ns')) =
    wordsOf signed width (checked ++ checked') (ns ++ ns') := by
  unfold wordsOf
  rw [List.all_append, List.map_append]
  cases checked.all (fits signed width) <;>
  cases checked'.all (fits signed width) <;> rfl

theorem word_eq (hwidth : 0 < width) (n : Int) :
    (do return [← word signed width n]) =
      wordsOf signed width [n] [n] := by
  unfold word wordsOf
  rw [List.all_cons, List.all_nil, Bool.and_true, List.map_singleton]
  by_cases h : fits signed width n = true
  · rw [if_pos h, if_pos h, wrap_of_fits hwidth h]
    rfl
  · rw [if_neg h, if_neg h]
    rfl

mutual

theorem elementsOf_integers (hwidth : 0 < width) : (v : Value) →
    {ns : List Int} → v.integers? = some ns →
    elementsOf (.int signed width) v =
      wordsOf signed width (v.checked signed) ns
  | .list items, ns, h | .tuple items, ns, h => by
    rw [Value.integers?] at h
    rw [elementsOf, Value.checked]
    exact elementsOfAll_integers hwidth items h
  | .int n, ns, h => by
    cases h
    exact word_eq hwidth n
  | .scalar (.int s w) n, ns, h => by
    cases h
    cases signed with
    | true => exact word_eq hwidth n
    | false => rfl
  | .array ⟨.int s w, shape, data⟩, ns, h => by
    cases h
    rfl
  | .none, ns, h | .bool _, ns, h | .float _, ns, h | .text _, ns, h
  | .bytes _, ns, h | .dict _, ns, h | .texture _, ns, h | .fraction _ _, ns, h
  | .scalar .bool _, ns, h | .scalar (.float _) _, ns, h
  | .array ⟨.bool, _, _⟩, ns, h | .array ⟨.float _, _, _⟩, ns, h => by
    cases h

theorem elementsOfAll_integers (hwidth : 0 < width) : (items : List Value) →
    {ns : List Int} → Value.integersAll? items = some ns →
    elementsOfAll (.int signed width) items =
      wordsOf signed width (Value.checkedAll signed items) ns
  | [], ns, h => by
    cases h
    rfl
  | v :: rest, ns, h => by
    rw [Value.integersAll?] at h
    obtain ⟨first, hfirst, h⟩ := Option.bind_eq_some_iff.mp h
    obtain ⟨others, hothers, h⟩ := Option.bind_eq_some_iff.mp h
    cases h
    rw [elementsOfAll, elementsOf_integers hwidth v hfirst,
      elementsOfAll_integers hwidth rest hothers, Value.checkedAll]
    exact wordsOf_append

end

theorem toArray_eq_ok_iff {t : ElementType} {a : Number.Array} :
    toArray t v = .ok a ↔ ∃ shape data, shapeOf v = .ok shape ∧
      shape.length ≤ maxAxes ∧ dataOf t v = .ok data ∧
      a = ⟨t, if shape.isEmpty then [1] else shape, data⟩ := by
  constructor
  · intro h
    obtain ⟨shape, hshape, h⟩ := bind_ok h
    by_cases hdeep : shape.length > maxAxes
    · simp only [if_pos hdeep] at h
      obtain ⟨_, ⟨⟩, -⟩ := bind_ok h
    · simp only [if_neg hdeep] at h
      obtain ⟨data, hdata, h⟩ := bind_ok h
      cases h
      exact ⟨shape, data, hshape, by omega, hdata, rfl⟩
  · rintro ⟨shape, data, hshape, hdeep, hdata, rfl⟩
    unfold toArray
    simp only [hshape, hdata, Bind.bind, Except.bind]
    rw [if_neg (by omega)]
    rfl

/-- What has an axis is a list or an array, whose elements are converted. -/
theorem dataOf_of_shape {t : ElementType} {n : Nat} {shape : List Nat}
    (h : shapeOf v = .ok (n :: shape)) : dataOf t v = elementsOf t v := by
  cases v <;> first | rfl | cases h

theorem toArrayOf_of_shape {t : ElementType} {n : Nat} {shape : List Nat}
    (h : shapeOf v = .ok (n :: shape)) {a : Number.Array}
    (ha : toArray t v = .ok a) : toArrayOf a.shape t v = .ok a := by
  unfold toArrayOf
  split
  · cases h
  · cases h
  · simp only [ha, Bind.bind, Except.bind, if_true]
    rfl

/-- A vector of words is made of as many integers, if those that are checked
fit. -/
theorem toArrayOf_integers (hwidth : 0 < width) (h : v.integers? = some ns)
    (size : Dim) {a : Number.Array} :
    toArrayOf [size.toNat] (.int signed width) v = .ok a ↔
      shapeOf v = .ok [size.toNat] ∧
      (∀ n ∈ v.checked signed, fits signed width n = true) ∧
      a = ⟨.int signed width, [size.toNat], ns.map (wrap signed width)⟩ := by
  constructor
  · intro ha
    have hform := (toArrayOf_form ha).2
    obtain ⟨shape, data, hshape, -, hdata, rfl⟩ :=
      toArray_eq_ok_iff.mp (toArray_of_toArrayOf ha)
    have hsize : shape = [size.toNat] := by
      cases shape with
      | nil => cases size <;> cases hform
      | cons n rest => exact hform
    subst hsize
    rw [dataOf_of_shape hshape, elementsOf_integers hwidth v h] at hdata
    obtain ⟨hchecked, rfl⟩ := wordsOf_eq_ok_iff.mp hdata
    exact ⟨hshape, hchecked, rfl⟩
  · rintro ⟨hshape, hchecked, rfl⟩
    refine toArrayOf_of_shape hshape (toArray_eq_ok_iff.mpr
      ⟨[size.toNat], _, hshape, by simp [maxAxes], ?_, rfl⟩)
    rw [dataOf_of_shape hshape, elementsOf_integers hwidth v h]
    exact wordsOf_eq_ok_iff.mpr ⟨hchecked, rfl⟩

/-! ## Single integers -/

theorem toInt_eq_ok_iff {n : Int} :
    toInt v = .ok n ↔ v.isSingle = true ∧ v.integers? = some [n] := by
  cases v with
  | int m => simp [toInt, Value.isSingle, Value.integers?]
  | scalar t x => cases t <;> simp [toInt, Value.isSingle, Value.integers?]
  | none | bool _ | float _ | text _ | bytes _ | list _ | tuple _ | dict _
  | texture _ | fraction _ _ | array _ => simp [toInt, Value.isSingle]

theorem toUint_eq_ok_iff {n : Int} :
    toUint v = .ok n ↔ toInt v = .ok n ∧ fits false 32 n = true := by
  constructor
  · intro h
    refine ⟨?_, toUint_range h⟩
    obtain ⟨m, hm, h⟩ := bind_ok h
    split at h
    · cases h
      exact hm
    · split at h <;> cases h
  · rintro ⟨hint, hfits⟩
    have hrange : 0 ≤ n ∧ n < Nat.pow 2 32 := by simpa [fits] using hfits
    simp only [toUint, hint, Bind.bind, Except.bind, if_pos hrange]
    rfl

end Conversion

/-! ## Uniforms of integers -/

/-- The integers that are passed, after whether it is as signed words. -/
def GL.Upload.words? : GL.Upload → Option (Bool × List Int)
  | int n => some (true, [n])
  | uint n => some (false, [n])
  | vector _ .int a => (Value.array a).integers?.map (true, ·)
  | vector _ .uint a => (Value.array a).integers?.map (false, ·)
  | _ => none

namespace UniformType

variable {t : UniformType} {signed : Bool} {v : Value} {ns : List Int}
variable {stored : Stored}

/-- Whether the integers of a type of integers, or of a type of vectors of them,
are signed. -/
def signed? : UniformType → Option Bool
  | scalar .int | vector _ .int => some true
  | scalar .uint | vector _ .uint => some false
  | _ => none

/-- The integers of a value that are checked for a type. A single signed one is
not. -/
def checked : UniformType → Value → List Int
  | scalar .uint, v => v.integers?.getD []
  | vector _ .int, v => v.checked true
  | vector _ .uint, v => v.checked false
  | _, _ => []

/-- The value is a single number, or has the lengths of the type along its
axes. -/
def Shaped : UniformType → Value → Prop
  | vector size _, v => Conversion.shapeOf v = .ok [size.toNat]
  | matrix rows cols _, v =>
    Conversion.shapeOf v = .ok [rows.toNat, cols.toNat]
  | scalar _, v | texture, v => v.isSingle = true

/-- What is stored of integers. -/
inductive Keeps : UniformType → List Int → Stored → Prop
  | int (n : Int) : Keeps (.scalar .int) [n] (.int n)
  | uint (n : Int) : Keeps (.scalar .uint) [n] (.int n)
  | signed (size : Dim) (ns : List Int) :
    Keeps (.vector size .int) ns
      (.array ⟨.int32, [size.toNat], ns.map (wrap true 32)⟩)
  | unsigned (size : Dim) (ns : List Int) :
    Keeps (.vector size .uint) ns
      (.array ⟨.uint32, [size.toNat], ns.map (wrap false 32)⟩)

/-- Integers are accepted in the right shape, if those that are checked fit. -/
theorem convert_integers (ht : t.signed? = some signed)
    (hv : v.integers? = some ns) :
    t.converter.convert v = .ok stored ↔ t.Shaped v ∧
      (∀ n ∈ t.checked v, fits signed 32 n = true) ∧ t.Keeps ns stored := by
  have hmap {α : Type} {x : Except Conversion.Fault α} {f : α → Stored} :
      x.map f = .ok stored ↔ ∃ a, x = .ok a ∧ stored = f a := by
    constructor
    · exact Conversion.map_ok
    · rintro ⟨a, rfl, rfl⟩
      rfl
  cases t with
  | scalar s =>
    cases s with
    | bool | float | double => cases ht
    | int =>
      refine hmap.trans ⟨?_, ?_⟩
      · rintro ⟨n, hn, rfl⟩
        obtain ⟨hsingle, hn⟩ := Conversion.toInt_eq_ok_iff.mp hn
        cases hv.symm.trans hn
        exact ⟨hsingle, by simp [checked], .int n⟩
      · rintro ⟨hsingle, -, ⟨n⟩⟩
        exact ⟨n, Conversion.toInt_eq_ok_iff.mpr ⟨hsingle, hv⟩, rfl⟩
    | uint =>
      cases ht
      have hchecked : checked (.scalar .uint) v = ns := by simp [checked, hv]
      rw [hchecked]
      refine hmap.trans ⟨?_, ?_⟩
      · rintro ⟨n, hn, rfl⟩
        obtain ⟨hn, hfits⟩ := Conversion.toUint_eq_ok_iff.mp hn
        obtain ⟨hsingle, hn⟩ := Conversion.toInt_eq_ok_iff.mp hn
        cases hv.symm.trans hn
        exact ⟨hsingle, by simpa using hfits, .uint n⟩
      · rintro ⟨hsingle, hfits, ⟨⟩⟩
        refine ⟨_, Conversion.toUint_eq_ok_iff.mpr ⟨?_, ?_⟩, rfl⟩
        · exact Conversion.toInt_eq_ok_iff.mpr ⟨hsingle, hv⟩
        · exact hfits _ List.mem_cons_self
  | vector size e =>
    cases e with
    | bool | float | double => cases ht
    | int | uint =>
      cases ht
      refine hmap.trans ⟨?_, ?_⟩
      · rintro ⟨a, ha, rfl⟩
        obtain ⟨hshape, hchecked, rfl⟩ :=
          (Conversion.toArrayOf_integers (by decide) hv size).mp ha
        exact ⟨hshape, hchecked, by constructor⟩
      · rintro ⟨hshape, hchecked, ⟨⟩⟩
        exact ⟨_, (Conversion.toArrayOf_integers (by decide) hv size).mpr
          ⟨hshape, hchecked, rfl⟩, rfl⟩
  | matrix _ _ _ | texture => cases ht

/-- Integers in the right shape can be stored. -/
theorem exists_keeps (ht : t.signed? = some signed)
    (hv : v.integers? = some ns) (h : t.Shaped v) :
    ∃ stored, t.Keeps ns stored := by
  cases t with
  | scalar s =>
    obtain ⟨n, rfl⟩ := Value.integers?_of_isSingle h hv
    cases s with
    | bool | float | double => cases ht
    | int => exact ⟨_, .int n⟩
    | uint => exact ⟨_, .uint n⟩
  | vector size e =>
    cases e with
    | bool | float | double => cases ht
    | int => exact ⟨_, .signed size ns⟩
    | uint => exact ⟨_, .unsigned size ns⟩
  | matrix _ _ _ | texture => cases ht

/-- Wrapping leaves integers alone exactly if all of them are words. -/
theorem map_wrap_iff :
    (ns.map (wrap signed 32) = ns ∧
      ∀ m ∈ ns.map (wrap signed 32), fits signed 32 m = true) ↔
      ∀ n ∈ ns, fits signed 32 n = true := by
  constructor
  · rintro ⟨heq, hfits⟩
    rwa [heq] at hfits
  · intro hfits
    have heq : ns.map (wrap signed 32) = ns :=
      (List.map_congr_left fun n hn =>
        wrap_of_fits (by decide) (hfits n hn)).trans (List.map_id ns)
    exact ⟨heq, by rwa [heq]⟩

/-- What is stored of integers is passed as words, but they are these integers,
and words, only if all of them were. -/
theorem Keeps.passed (h : t.Keeps ns stored) (ht : t.signed? = some signed)
    (transpose : Value) :
    ∃ upload ms, Binding.uploadOf? t transpose stored = some upload ∧
      upload.words? = some (signed, ms) ∧ stored.value.integers? = some ms ∧
      ((ms = ns ∧ ∀ m ∈ ms, fits signed 32 m = true) ↔
        ∀ n ∈ ns, fits signed 32 n = true) := by
  cases h with
  | int n | uint n =>
    cases ht
    exact ⟨_, [n], rfl, rfl, rfl, and_iff_right rfl⟩
  | signed size | unsigned size =>
    cases ht
    exact ⟨_, _, rfl, rfl, rfl, map_wrap_iff⟩

end UniformType

namespace Binding

variable {σ : Type} {plan : Plan} {name : String} {u : PlannedUniform}
variable {value : Value} {signed : Bool} {ns : List Int}

theorem setParameter_of_fault (hu : uniformNamed? plan name = some u)
    {fault : Conversion.Fault}
    (h : u.type.converter.convert value = .error fault) (self : String)
    (s : Session σ) (k : State) :
    ∃ e, setParameter plan self name value (s, k) = (.error e, s, k) := by
  unfold setParameter uniformNamed reach
  split
  · rw [pure_bind, hu]
    simp only [Act.ofExcept_ok, pure_bind, h]
    exact ⟨_, rfl⟩
  · exact ⟨_, rfl⟩

/-- Integers are stored for a uniform of integers if they are given in its shape
and those that are checked fit into words; otherwise nothing is stored. What is
stored are the same integers, and words, exactly if all of them fit, checked or
not. -/
theorem setParameter_integers (hu : uniformNamed? plan name = some u)
    (ht : u.type.signed? = some signed) (hv : value.integers? = some ns)
    (self : String) (s : Session σ) (k : State) :
    ((∃ stored, u.type.converter.convert value = .ok stored) ↔
      u.type.Shaped value ∧
        ∀ n ∈ u.type.checked value, fits signed 32 n = true) ∧
    (∀ stored, u.type.converter.convert value = .ok stored →
      (Named plan → setParameter plan self name value (s, k) =
        (.ok (), s, k.withValue plan self u.id stored)) ∧
      ∀ transpose, ∃ upload ms,
        uploadOf? u.type transpose stored = some upload ∧
        upload.words? = some (signed, ms) ∧ stored.value.integers? = some ms ∧
        ((ms = ns ∧ ∀ m ∈ ms, fits signed 32 m = true) ↔
          ∀ n ∈ ns, fits signed 32 n = true)) ∧
    ∀ fault, u.type.converter.convert value = .error fault →
      ∃ e, setParameter plan self name value (s, k) = (.error e, s, k) := by
  refine ⟨⟨?_, ?_⟩, fun stored h => ⟨fun hname => ?_, fun transpose => ?_⟩,
    fun fault h => setParameter_of_fault hu h self s k⟩
  · rintro ⟨stored, h⟩
    obtain ⟨hshaped, hchecked, -⟩ :=
      (UniformType.convert_integers ht hv).mp h
    exact ⟨hshaped, hchecked⟩
  · rintro ⟨hshaped, hchecked⟩
    obtain ⟨stored, hkeeps⟩ := UniformType.exists_keeps ht hv hshaped
    exact ⟨stored, (UniformType.convert_integers ht hv).mpr
      ⟨hshaped, hchecked, hkeeps⟩⟩
  · exact setParameter_of_convert hname hu h self s k
  · exact ((UniformType.convert_integers ht hv).mp h).2.2.passed ht transpose

/-- An array of wider integers is stored, but not its first number. -/
theorem setParameter_integers_wide :
    let plan : Plan := ⟨{}, [⟨"v", "v", .vector .two .int, none⟩], [], []⟩
    let value : Value := .array ⟨.int true 64, [2], [(2 : Int) ^ 32, (1 : Int)]⟩
    let k : State := { shared := Shared.initial plan }
    setParameter plan "a" "v" value ((⟨0, [], []⟩ : Session Nat), k) =
      (.ok (), ⟨0, [], []⟩, k.withValue plan "a" "v"
        (.array ⟨.int true 32, [2], [(0 : Int), (1 : Int)]⟩)) := by
  intro plan value k
  have hu : uniformNamed? plan "v" =
      some ⟨"v", "v", .vector .two .int, none⟩ := rfl
  have hv : value.integers? = some [2 ^ 32, 1] := rfl
  have hname : Named plan := by
    intro m
    cases m <;> decide +kernel
  have hstored : (UniformType.vector .two .int).converter.convert value =
      .ok (.array ⟨.int true 32, [2], [(0 : Int), (1 : Int)]⟩) := by
    decide +kernel
  obtain ⟨-, h, -⟩ :=
    setParameter_integers hu rfl hv "a" (⟨0, [], []⟩ : Session Nat) k
  exact (h _ hstored).1 hname

end Binding

end ShaderBindings
