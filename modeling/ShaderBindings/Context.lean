import ShaderBindings.Session

/-!
# Contexts

A context makes OpenGL available while something is done, and is taken down
afterwards whatever comes of it.
-/

namespace ShaderBindings

variable {σ : Type}

/-- A way to enter a context and to leave it. Entering gives the handle of the
window, and cleans up after itself if it fails. -/
structure Context (σ : Type) where
  enter : Act (Session σ) Int
  leave : Int → Act (Session σ) Unit

/-- Does something inside a context. -/
def Context.within {α : Type} (context : Context σ)
    (body : Act (Session σ) α) : Act (Session σ) α := do
  let window ← context.enter
  Act.ensuring body (context.leave window)

namespace Context

/-- The least version a context is made for. -/
def minimumVersion : Version := ⟨3, 0⟩

/-- The greatest version a context is made for. -/
def maximumVersion : Version := ⟨4, 6⟩

/-- The first version with a core profile. -/
def coreProfileVersion : Version := ⟨3, 2⟩

/-- The version a context is made for when `v` is asked for: at least the
minimum. Negative numbers and versions beyond the maximum are refused. -/
def configure (v : Version) : Except Error Version :=
  if v.major < 0 || v.minor < 0 then .error (.context (.invalidVersion v))
  else if maximumVersion.before v then
    .error (.context (.unsupportedVersion v))
  else if v.before minimumVersion then .ok minimumVersion
  else .ok v

/-- The version that a version code stands for: its hundreds and its tens. -/
def versionOfCode (code : Int) : Version :=
  ⟨code / 100, code % 100 / 10⟩

/-- A code stands for a version: three numbers are written one after the other,
the last two with one digit each. They are those of the version and one that
says nothing of it. -/
structure StandsFor (code : Int) (v : Version) : Prop where
  minor : 0 ≤ v.minor ∧ v.minor ≤ 9
  digits : ∃ last, 0 ≤ last ∧ last ≤ 9 ∧
    code = 100 * v.major + 10 * v.minor + last

theorem standsFor_versionOfCode (code : Int) :
    StandsFor code (versionOfCode code) where
  minor := by
    simp only [versionOfCode]
    omega
  digits := by
    refine ⟨code % 10, ?_⟩
    simp only [versionOfCode]
    omega

/-- A code stands for one version only. -/
theorem StandsFor.unique {code : Int} {v w : Version} (h : StandsFor code v)
    (h' : StandsFor code w) : v = w := by
  obtain ⟨hminor, last, hlow, hhigh, hcode⟩ := h
  obtain ⟨hminor', last', hlow', hhigh', hcode'⟩ := h'
  have hmajor : v.major = w.major := by omega
  have hsame : v.minor = w.minor := by omega
  cases v
  cases w
  simp only at hmajor hsame
  rw [hmajor, hsame]

/-- Wishes for a hidden window, and makes it. -/
def openWindow (system : Window.System σ) (v : Version) :
    Act (Session σ) Int := do
  system.perform (.hint .hidden)
  system.perform (.hint (.contextMajor v.major))
  system.perform (.hint (.contextMinor v.minor))
  system.perform (.hint .forwardCompatible)
  if !v.before coreProfileVersion then
    system.perform (.hint .coreProfile)
  let window ← system.perform .createWindow
  if window = 0 then Act.fail (.context .noWindow)
  return window

/-- Makes the window current and checks the version of its context. -/
def checkWindow (system : Window.System σ) (v : Version) (window : Int) :
    Act (Session σ) Unit := do
  system.perform (.makeCurrent window)
  let info ← system.perform .createContext
  let actual := versionOfCode info.versionCode
  let renderer := info.renderer.getD "unknown renderer"
  Session.info s!"Created OpenGL {actual} context ({renderer})"
  if actual.before v then Act.fail (.contextTooOld actual v)

/-- Takes a window down. -/
def closeWindow (system : Window.System σ) (window : Int) :
    Act (Session σ) Unit := do
  system.perform (.destroyWindow window)
  system.perform .stop

/-- The context of a hidden window, of at least the version `v`. -/
def hidden (system : Window.System σ) (v : Version) : Context σ where
  enter := do
    if !(← system.perform .start) then
      Act.fail (.context .noWindowSystem)
    let window ← Act.onError (openWindow system v) (system.perform .stop)
    Act.onError (checkWindow system v window) (closeWindow system window)
    return window
  leave := closeWindow system

end Context

end ShaderBindings
