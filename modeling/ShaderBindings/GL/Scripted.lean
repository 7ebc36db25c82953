import ShaderBindings.GL.Call
import ShaderBindings.Table

/-!
# A scripted device

A device without a graphics card behind it. What it answers is written down in
a script: which texts compile, what the program contains, and which calls fail.
-/

namespace ShaderBindings.GL

/-- What a scripted device answers. -/
structure Script where
  /-- The texts that are not compiled without a word: whether they are compiled
  at all, and the log. -/
  shaders : List (String × Bool × Option RawText) := []
  linkSucceeds : Bool := true
  linkLog : Option RawText := some (.text "")
  uniforms : List (RawText × Int) := []
  attributes : List (RawText × Int) := []
  version : Option RawText := some (.text "4.6.0 FakeGL")
  majorMinor : Int × Int := (4, 6)
  /-- The calls that fail: the name of a function, and which of its calls,
  counted from one. -/
  failures : List (String × List Nat) := []
  /-- Texts are handed out as characters, and not as bytes. -/
  handsOutCharacters : Bool := false

/-- The state of a scripted device. -/
structure Scripted where
  script : Script
  /-- How many handles have been given out. -/
  handles : Nat := 0
  /-- The text of each shader, the latest first. -/
  sources : List (Int × String) := []
  /-- The location of each known name. -/
  locations : List (String × Int) := []
  /-- How often each function has been called. -/
  counts : List (String × Nat) := []

namespace Scripted

/-- A text as the script wants it to be handed out. -/
def handOut (s : Script) : RawText → RawText
  | .text t =>
    if s.handsOutCharacters then .text t else .bytes (Text.Utf8.encode t)
  | .bytes bs => .bytes bs

/-- A text cut to a buffer, of which one place is kept for the end mark. -/
def cut (size : Int) : RawText → RawText
  | .text t => .text (.ofList (t.toList.take (size - 1).toNat))
  | .bytes bs => .bytes (bs.take (size - 1).toNat)

/-- The item at an index; below zero, items are counted from the end. -/
def itemAt {α : Type} (items : List α) (index : Int) :
    Except ExternalFault α :=
  let i := if index < 0 then index + items.length else index
  match if i < 0 then none else items[i.toNat]? with
  | some a => .ok a
  | none => .error .badIndex

/-- Whether the text of a shader is compiled, and the log. -/
def compiled (d : Scripted) (shader : Int) : Bool × Option RawText :=
  match d.sources.lookup shader with
  | none => (true, some (.text ""))
  | some text => (d.script.shaders.lookup text).getD (true, some (.text ""))

/-- A handle that has not been given out. -/
def newHandle (d : Scripted) : Except ExternalFault Int × Scripted :=
  (.ok (d.handles + 1), { d with handles := d.handles + 1 })

/-- The variable at an index, its name cut to a buffer. -/
def variableAt (d : Scripted) (active : List (RawText × Int))
    (index size : Int) : Except ExternalFault (RawText × Int) :=
  (itemAt active index).map fun (name, tag) =>
    (cut size (handOut d.script name), tag)

/-- The location of a name, which is its own from now on. -/
def locate (d : Scripted) (name : String) :
    Except ExternalFault Int × Scripted :=
  match d.locations.lookup name with
  | some location => (.ok location, d)
  | none =>
    let location : Int := d.locations.length
    (.ok location, { d with locations := d.locations ++ [(name, location)] })

/-- The answer to a call that does not fail. -/
def answer (d : Scripted) :
    (call : Call) → Except ExternalFault call.Reply × Scripted
  | .createProgram | .createShader _ | .generateTexture => d.newHandle
  | .shaderSource shader text =>
    (.ok (), { d with sources := (shader, text) :: d.sources })
  | .compileStatus shader => (.ok (d.compiled shader).1, d)
  | .shaderInfoLog shader =>
    (.ok ((d.compiled shader).2.map (handOut d.script)), d)
  | .linkStatus _ => (.ok d.script.linkSucceeds, d)
  | .programInfoLog _ => (.ok (d.script.linkLog.map (handOut d.script)), d)
  | .attributeCount _ => (.ok d.script.attributes.length, d)
  | .uniformCount _ => (.ok d.script.uniforms.length, d)
  | .activeAttribute _ index size =>
    (d.variableAt d.script.attributes index size, d)
  | .activeUniform _ index size =>
    (d.variableAt d.script.uniforms index size, d)
  | .attributeLocation _ name | .uniformLocation _ name => d.locate name
  | .versionText => (.ok (d.script.version.map (handOut d.script)), d)
  | .versionPart .major => (.ok d.script.majorMinor.1, d)
  | .versionPart .minor => (.ok d.script.majorMinor.2, d)
  | .deleteProgram _ | .compileShader _ | .attachShader .. | .detachShader ..
  | .deleteShader _ | .linkProgram _ | .useProgram _ | .activeTexture _
  | .bindTexture .. | .enableAttribute _ | .passUnit .. | .passUniform ..
  | .deleteTexture _ => (.ok (), d)

/-- The scripted device: a call is counted, then fails or is answered. -/
def device : Device Scripted := fun call d =>
  let count := (d.counts.lookup call.name).getD 0 + 1
  let d := { d with counts := Table.insert call.name count d.counts }
  if ((d.script.failures.lookup call.name).getD []).contains count then
    (.error (.failed s!"{call.name} failed"), d)
  else d.answer call

end Scripted

end ShaderBindings.GL
