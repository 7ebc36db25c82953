import ShaderBindings.Number.Binary

/-!
# Numeric arrays

Rectangular arrays of numbers of one type, stored row by row.
-/

namespace ShaderBindings.Number

/-- The type of the numbers of an array. -/
inductive ElementType
  | bool
  | int (signed : Bool) (width : Nat)
  | float (format : BinaryFormat)
  deriving DecidableEq, Repr

namespace ElementType

/-- Signed integers of 8 bits. -/
def int8 : ElementType := int true 8
/-- Signed integers of 16 bits. -/
def int16 : ElementType := int true 16
/-- Signed integers of 32 bits. -/
def int32 : ElementType := int true 32
/-- Signed integers of 64 bits. -/
def int64 : ElementType := int true 64
/-- Unsigned integers of 8 bits. -/
def uint8 : ElementType := int false 8
/-- Unsigned integers of 16 bits. -/
def uint16 : ElementType := int false 16
/-- Unsigned integers of 32 bits. -/
def uint32 : ElementType := int false 32
/-- Unsigned integers of 64 bits. -/
def uint64 : ElementType := int false 64
/-- Floating-point numbers of 16 bits. -/
def float16 : ElementType := float .half
/-- Floating-point numbers of 32 bits. -/
def float32 : ElementType := float .single
/-- Floating-point numbers of 64 bits. -/
def float64 : ElementType := float .double

/-- The types that arrays are made of. -/
def all : List ElementType :=
  [bool, int8, int16, int32, int64, uint8, uint16, uint32, uint64, float16,
   float32, float64]

/-- The name of the type. -/
def name : ElementType → String
  | bool => "bool"
  | int true w => s!"int{w}"
  | int false w => s!"uint{w}"
  | float f => s!"float{f.width}"

/-- The numbers of the type. -/
abbrev Carrier : ElementType → Type
  | bool => Bool
  | int _ _ => Int
  | float f => Binary f

instance : (t : ElementType) → DecidableEq t.Carrier
  | bool => inferInstanceAs (DecidableEq Bool)
  | int _ _ => inferInstanceAs (DecidableEq Int)
  | float f => inferInstanceAs (DecidableEq (Binary f))

instance : (t : ElementType) → Repr t.Carrier
  | bool => inferInstanceAs (Repr Bool)
  | int _ _ => inferInstanceAs (Repr Int)
  | float f => inferInstanceAs (Repr (Binary f))

/-- The number zero of the type. -/
def zero : (t : ElementType) → t.Carrier
  | bool => false
  | int _ _ => (0 : Int)
  | float _ => Binary.ofCode false 0

end ElementType

/-- An array: the type of its numbers, its lengths along each axis, and the
numbers, the last axis varying fastest. -/
structure Array where
  element : ElementType
  shape : List Nat
  data : List element.Carrier

namespace Array

instance : DecidableEq Array := fun a b =>
  match a, b with
  | ⟨s, m, xs⟩, ⟨t, n, ys⟩ =>
    if h : s = t then by
      subst h
      exact decidable_of_iff (m = n ∧ xs = ys) (by simp)
    else isFalse (by simp [h])

instance : Repr Array := ⟨fun a p => reprPrec (a.element, a.shape, a.data) p⟩

/-- The array of zeros. -/
def zeros (element : ElementType) (shape : List Nat) : Array :=
  ⟨element, shape, List.replicate (shape.foldr (· * ·) 1) element.zero⟩

end Array

/-! ## Casts -/

/-- A number is not zero. -/
def isNonzero : (t : ElementType) → t.Carrier → Bool
  | .bool, b => b
  | .int _ _, n => n != (0 : Int)
  | .float _, x => Binary.isNonzero x

/-- The integer part of a number; nothing for an infinity or not-a-number. -/
def truncate? : (t : ElementType) → t.Carrier → Option Int
  | .bool, b => some (if b then 1 else 0)
  | .int _ _, n => some n
  | .float _, x =>
    match Binary.datum x with
    | .finite negative m e => some (truncateScaled negative m e)
    | _ => none

/-- A number in a format, rounded once. -/
def toBinary (f : BinaryFormat) : (t : ElementType) → t.Carrier → Binary f
  | .bool, b => .ofInt (if b then 1 else 0)
  | .int _ _, n => .ofInt n
  | .float _, x => Binary.convert f x

/-- A number in another type, by the rules of machine arithmetic: integers
wrap around, fractions are cut off, and every number but zero is true. -/
def cast (s : ElementType) (x : s.Carrier) : (t : ElementType) → t.Carrier
  | .bool => isNonzero s x
  | .int signed width => wrap signed width ((truncate? s x).getD 0)
  | .float f => toBinary f s x

/-- An array in another type, number by number. -/
def Array.cast (a : Array) (t : ElementType) : Array :=
  ⟨t, a.shape, a.data.map fun x => Number.cast a.element x t⟩

end ShaderBindings.Number
