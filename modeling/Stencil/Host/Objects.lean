import Stencil.Host

/-!
# How objects are made

A class makes an object of data that it is made for. The object comes behind those that were made before,
and its place among them is its number: no two objects share a handle, and what is behind a handle stays
there when others are made. In the host of some objects (`Host.withObjects`) a class sees of a value what
it made the object of, and nothing of all other values.
-/

namespace Stencil

/-- What objects were made of, each with the number of its class, in the order in which they were made. -/
abbrev Host.Objects (host : Host) := List ((number : Nat) × (host.classOf number).Data)

namespace Host.Objects

variable {host : Host}

/-- Makes an object of a class, which is written in the given way. -/
def make (made : host.Objects) (number : Nat) (data : (host.classOf number).Data) (display : String) :
    Object × host.Objects :=
  (⟨made.length, .declared number (host.classOf number).name, display⟩, made ++ [⟨number, data⟩])

/-- The data of a class that is behind a value. -/
def data? (made : host.Objects) (number : Nat) : Value → Option (host.classOf number).Data
  | .object o =>
    match made[o.number]? with
    | some ⟨other, data⟩ => if h : other = number then some (h ▸ data) else none
    | none => none
  | _ => none

end Host.Objects

/-- The host whose classes see the objects that have been made. -/
def Host.withObjects (host : Host) (made : host.Objects) : Host :=
  { host with classOf := fun number => { host.classOf number with view := made.data? number } }

end Stencil
