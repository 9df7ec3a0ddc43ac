import Screensaver.Fault
import Screensaver.Text.ByteText

/-!
Backends by name.

A backend is a name, a description and a way to run the screensaver. Names are registered once;
registering again, or without a name or a runner, is a fault. The list of backends is in the order
of the bytes of their names.
-/

namespace Screensaver

/-- A named way to run, of type `ρ`. -/
structure Backend (ρ : Type) where
  name : ByteText
  description : ByteText
  runner : ρ

/-- The registered backends, in the order of registration. -/
structure Registry (ρ : Type) where
  backends : List (Backend ρ)

/-- A name under which nothing is registered. -/
structure UnknownBackend where
  name : ByteText
deriving DecidableEq

def UnknownBackend.message (u : UnknownBackend) : String :=
  "registry: unknown backend " ++ u.name.quoted

namespace Registry

variable {ρ : Type}

def empty : Registry ρ := ⟨[]⟩

/-- The backend registered under a name. -/
def find? (r : Registry ρ) (name : ByteText) : Option (Backend ρ) :=
  r.backends.find? fun b => b.name = name

/-- Registers a backend. -/
def register (name description : ByteText) (runner : Option ρ) : EStateM Fault (Registry ρ) Unit := do
  match runner with
  | none => throw (.raised "registry: backend needs a name and a runner")
  | some runner =>
    if name.isEmpty then throw (.raised "registry: backend needs a name and a runner")
    if ((← get).find? name).isSome then
      throw (.raised ("registry: backend " ++ name.quoted ++ " already registered"))
    modify fun r => ⟨r.backends ++ [⟨name, description, runner⟩]⟩

/-- The backend registered under a name, or the complaint that there is none. -/
def get (r : Registry ρ) (name : ByteText) : Except UnknownBackend (Backend ρ) :=
  match r.find? name with
  | some b => .ok b
  | none => .error ⟨name⟩

/-- Whether a name comes before another or is the same, byte by byte. -/
def nameLE (a b : ByteText) : Bool :=
  !decide (b.bytes < a.bytes)

/-- Names and descriptions, in the order of the names. -/
def list (r : Registry ρ) : List (ByteText × ByteText) :=
  (r.backends.map fun b => (b.name, b.description)).mergeSort fun a b => nameLE a.1 b.1

end Registry

end Screensaver
