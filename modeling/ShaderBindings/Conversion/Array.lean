import ShaderBindings.Conversion.Element

/-!
# Conversion to arrays

Nested lists become a rectangular array: first the shape is found, on which all
items of a list must agree, and then the elements are converted one by one.
-/

namespace ShaderBindings.Conversion

open Number

/-- The most axes an array has. -/
def maxAxes : Nat := 64

/-- The shape that all items of a list share; an empty list has none. -/
def commonShape : List (List Nat) → Except Fault (List Nat)
  | [] => .ok []
  | shape :: rest =>
    if rest.all (· == shape) then .ok shape else .error .ragged

mutual

/-- The shape of nested lists. What is no list or array is a single element. -/
def shapeOf : Value → Except Fault (List Nat)
  | .list items | .tuple items => do
    let shapes ← shapesOf items
    return items.length :: (← commonShape shapes)
  | .array a => .ok a.shape
  | _ => .ok []

/-- The shape of each value. -/
def shapesOf : List Value → Except Fault (List (List Nat))
  | [] => .ok []
  | v :: rest => do
    let shape ← shapeOf v
    return shape :: (← shapesOf rest)

end

mutual

/-- The elements of nested lists, in order, converted to a type. -/
def elementsOf (t : ElementType) : Value → Except Fault (List t.Carrier)
  | .list items | .tuple items => elementsOfAll t items
  | .array a => .ok (a.data.map fun x => cast a.element x t)
  | .scalar s x => do return [← scalarElement s x t]
  | v => do return [← element t v]

/-- The elements of each value, in order. -/
def elementsOfAll (t : ElementType) :
    List Value → Except Fault (List t.Carrier)
  | [] => .ok []
  | v :: rest => do
    let elements ← elementsOf t v
    return elements ++ (← elementsOfAll t rest)

end

/-- The elements of a value. A number of a machine type that stands alone is
cast like an array. -/
def dataOf (t : ElementType) : Value → Except Fault (List t.Carrier)
  | .scalar s x => .ok [cast s x t]
  | v => elementsOf t v

/-- The array of a type that a value stands for. A single element becomes an
array with one axis. -/
def toArray (t : ElementType) (v : Value) : Except Fault Array := do
  let shape ← shapeOf v
  if shape.length > maxAxes then .error .tooDeep
  let data ← dataOf t v
  return ⟨t, if shape.isEmpty then [1] else shape, data⟩

/-- The array of a type and a shape that a value stands for. A text is no array
of characters. -/
def toArrayOf (shape : List Nat) (t : ElementType) :
    Value → Except Fault Array
  | .text _ | .bytes _ => .error (.expectedArray shape)
  | v => do
    let a ← toArray t v
    if a.shape = shape then return a
    else .error (.wrongShape shape a.shape)

end ShaderBindings.Conversion
