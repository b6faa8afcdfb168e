import Stencil.Host.Patterns
import Stencil.Host.Signature

/-!
# What a host declares

A class is made for one sort of data. It says how a value is seen as such data, and gives it
properties, methods (several may share a name) and, if need be, items to loop over. A host declares
classes for its objects, says what its procedures do, and brings the engine for patterns.

Two things are assumed of a host, and said by the types alone.

* Bodies are pure. What a property, a method, a procedure or an engine for patterns answers depends on
  what it is given and on nothing else: not on what was asked before, on time or on anything that changes.
  A body ends, and it does not fail but by its own words.
* Equal handles are one object. The data behind a handle is never changed and never put in the place of
  other data, so that what a class sees of an object (`Class.view`) is the same whenever it looks.
-/

namespace Stencil

/-- A method of a class that sees its receivers as `Data`. -/
structure Method (Data : Type) extends Signature where
  body : Data → List Value → Except Fault Value

/-- A class of values. -/
structure Class where
  name : String
  /-- What the members of the class see of a value. -/
  Data : Type
  /-- A value as such data. Values that the class is not made for are not. -/
  view : Value → Option Data
  properties : List (String × (Data → Value)) := []
  methods : List (Method Data) := []
  items? : Option (Data → List Value) := none

namespace Class

/-- What the members of a class see of a receiver. -/
def receive (c : Class) (receiver : Value) : Except Fault c.Data :=
  match c.view receiver with
  | some data => .ok data
  | none => .error (.wrongReceiver c.name)

/-- The value of a property of a receiver. Of two properties of one name the later one counts. -/
def property? (c : Class) (receiver : Value) (name : String) : Option (Except Fault Value) :=
  (c.properties.reverse.lookup name).map fun get => (c.receive receiver).map get

/-- The methods of a name, in the order of declaration. -/
def overloads (c : Class) (name : String) : List (Method c.Data) :=
  c.methods.filter fun m => m.name == name

/-- Calls a method on arguments that are bound already. -/
def invoke (c : Class) (m : Method c.Data) (receiver : Value) (bound : List Value) :
    Except Fault Value := do
  m.body (← c.receive receiver) bound

/-- The items of a receiver, where the class has items. -/
def iterate? (c : Class) (receiver : Value) : Option (Except Fault (List Value)) :=
  c.items?.map fun items => (c.receive receiver).map items

end Class

namespace Method

/-- The first of the methods that require the fewest arguments. -/
def fewestRequired {Data : Type} : List (Method Data) → Option (Method Data)
  | [] => none
  | m :: ms =>
    match fewestRequired ms with
    | none => some m
    | some best => if best.required < m.required then some best else some m

/-- The method to be called with so many arguments: of those with enough parameters the first that
requires the fewest arguments. -/
def forCount? {Data : Type} (ms : List (Method Data)) (count : Nat) : Option (Method Data) :=
  fewestRequired (ms.filter fun m => count ≤ m.params.length)

end Method

/-- What the host of an engine declares. -/
structure Host where
  /-- The class declared under a number. -/
  classOf : Nat → Class
  /-- What the procedure of a number does with arguments that it takes. -/
  call : Nat → List Value → Except Fault Value
  patterns : Patterns := .standard

/-- The class without members. -/
def Class.empty (name : String) : Class := { name, Data := Unit, view := fun _ => none }

/-- A host that declares nothing. -/
def Host.empty : Host where
  classOf _ := .empty ""
  call _ _ := .ok .null

end Stencil
