import Stencil.Value

/-!
# Bindings

Names are bound to values. The first value other than "no value" that a name is bound to fixes the
type of the name, and from then on the name takes values of that type only. No value may be bound to
any name at any time.
-/

namespace Stencil

/-- What a name is bound to. -/
structure Entry where
  value : Value
  /-- The type that the name is fixed to, if it is. -/
  type? : Option String
deriving Inhabited

/-- A value is offered to a name that is fixed to another type. -/
structure BindError where
  name : String
  /-- The type that the name is fixed to. -/
  fixed : String
  /-- The type of the value. -/
  offered : String
deriving DecidableEq, Repr

/-- The wording of an error. -/
def BindError.message (e : BindError) : String :=
  let offered := e.offered
  let name := e.name
  let fixed := e.fixed
  s!"cannot store value of type {offered} in variable '{name}' of type {fixed}"

/-- The type that a value fixes a name to. -/
def Value.fixes? (v : Value) : Option String := if v.isNull then none else some v.typeName

namespace Entry

/-- The entry after a value is bound to its name, or the type that it is fixed to and the one that is
offered. -/
def rebind (e : Entry) (v : Value) : Except (String × String) Entry :=
  match e.type?, v.fixes? with
  | some fixed, some offered =>
    if fixed = offered then .ok ⟨v, some fixed⟩ else .error (fixed, offered)
  | some fixed, none => .ok ⟨v, some fixed⟩
  | none, offered? => .ok ⟨v, offered?⟩

end Entry

/-- Names and what they are bound to, in the order in which they were bound first. -/
abbrev Bindings := List (String × Entry)

namespace Bindings

/-- What a name is bound to. -/
def entry? (b : Bindings) (name : String) : Option Entry := b.lookup name

/-- The value of a name. -/
def get? (b : Bindings) (name : String) : Option Value := (b.entry? name).map (·.value)

/-- Is the name bound? -/
def has (b : Bindings) (name : String) : Bool := (b.entry? name).isSome

/-- The type that a name is fixed to. -/
def type? (b : Bindings) (name : String) : Option String := (b.entry? name).bind (·.type?)

/-- Binds a name to a value. -/
def set (b : Bindings) (name : String) (v : Value) : Except BindError Bindings :=
  match b with
  | [] => .ok [(name, ⟨v, v.fixes?⟩)]
  | (n, e) :: rest =>
    if n = name then
      match e.rebind v with
      | .ok e => .ok ((n, e) :: rest)
      | .error (fixed, offered) => .error ⟨name, fixed, offered⟩
    else
      (set rest name v).map ((n, e) :: ·)

/-- The rows of a table of bindings, by name. -/
def rows (b : Bindings) : List (String × Entry) := b.mergeSort fun a b => decide (a.1 ≤ b.1)

end Bindings

end Stencil
