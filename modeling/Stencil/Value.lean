import Stencil.Number.Real

/-!
# Values

What a program computes with: nothing, truth values, integers of 64 bits, reals, texts, lists, and two
kinds of things that belong to the host, objects and procedures. Of these a value holds a handle,
which says which thing it is and how it is called; what the thing does is the host's.

`Value.display` is how a value is written into a text, and `Value.same` holds of equal values of one
kind.
-/

namespace Stencil

/-- The kinds of value, and the kind that stands for all of them where a parameter is declared. -/
inductive ValueKind where
  | null | boolean | integer | real | text | list | object | procedure
  | any
deriving DecidableEq, Repr, Inhabited

namespace ValueKind

/-- Every kind, in the order of declaration. -/
def all : List ValueKind := [null, boolean, integer, real, text, list, object, procedure, any]

/-- The name of a kind in messages. -/
def name : ValueKind → String
  | null => "null"
  | boolean => "boolean"
  | integer => "integer"
  | real => "real"
  | text => "text"
  | list => "list"
  | object => "object"
  | procedure => "procedure"
  | any => "any"

/-- The kind of a given name. -/
def ofName? (name : String) : Option ValueKind := all.find? fun k => k.name == name

/-- May a value of kind `actual` be passed where `declared` is asked for? An integer may stand for a
real. No value may stand for a text, a list, an object or a procedure. -/
def admits (declared actual : ValueKind) : Bool :=
  match declared, actual with
  | any, _ => true
  | real, integer => true
  | text, null | list, null | object, null | procedure, null => true
  | declared, actual => declared == actual

end ValueKind

/-- Which class an object belongs to: that of the text helper, or one that the host declares under a
number of its own. Two classes of one name are still two. -/
inductive ClassRef where
  | textHelper
  | declared (number : Nat) (name : String)
deriving DecidableEq, Repr, Inhabited

/-- The name of a class. -/
def ClassRef.name : ClassRef → String
  | textHelper => "Text"
  | declared _ name => name

/-- A handle on an object of the host. Its data never changes, and so neither does its written form. -/
structure Object where
  /-- Tells the objects of a class apart. -/
  number : Nat
  classRef : ClassRef
  /-- How the object is written. -/
  display : String
deriving DecidableEq, Repr, Inhabited

/-- A handle on a procedure of the host. -/
structure Procedure where
  /-- Tells procedures apart. -/
  number : Nat
  name : String
  params : List ValueKind
deriving DecidableEq, Repr, Inhabited

/-- Does a procedure take these kinds of argument? The kinds must be exactly those declared. -/
def Procedure.accepts (p : Procedure) (kinds : List ValueKind) : Bool :=
  go p.params kinds
where
  /-- Parameter by parameter. -/
  go : List ValueKind → List ValueKind → Bool
    | [], [] => true
    | param :: params, kind :: kinds => (param == .any || param == kind) && go params kinds
    | _, _ => false

/-- A value. -/
inductive Value where
  | null
  | boolean (b : Bool)
  | integer (n : Int64)
  | real (x : Float)
  | text (s : String)
  | list (items : List Value)
  | object (o : Object)
  | procedure (p : Procedure)
deriving Inhabited

namespace Value

/-- The kind of a value. -/
def kind : Value → ValueKind
  | null => .null
  | boolean _ => .boolean
  | integer _ => .integer
  | real _ => .real
  | text _ => .text
  | list _ => .list
  | object _ => .object
  | procedure _ => .procedure

/-- The name of a value's type: that of its class for an object, and else that of its kind. -/
def typeName : Value → String
  | object o => o.classRef.name
  | v => v.kind.name

/-- Is this no value? -/
def isNull : Value → Bool
  | null => true
  | _ => false

/-- Is there data behind the value that a class could see? -/
def holdsData : Value → Bool
  | null | procedure _ => false
  | _ => true

mutual
/-- A value in writing. -/
def display : Value → String
  | null => ""
  | boolean b => if b then "true" else "false"
  | integer n => String.ofList (Integer.write n)
  | real x => String.ofList (Real.write x)
  | text s => s
  | list items => "[" ++ ", ".intercalate (displays items) ++ "]"
  | object o => o.display
  | procedure p => p.name ++ "()"
/-- Values in writing, one by one. -/
def displays : List Value → List String
  | [] => []
  | v :: vs => v.display :: displays vs
end

mutual
/-- Equal and of one kind, and so item by item. A real that is no number is not the same as itself. -/
def same : Value → Value → Bool
  | null, null => true
  | boolean a, boolean b => a == b
  | integer a, integer b => a == b
  | real a, real b => a == b
  | text a, text b => a == b
  | list as, list bs => allSame as bs
  | object a, object b => a == b
  | procedure a, procedure b => a == b
  | _, _ => false
/-- As many on both sides, and the same one by one. -/
def allSame : List Value → List Value → Bool
  | [], [] => true
  | a :: as, b :: bs => a.same b && allSame as bs
  | _, _ => false
end

end Value

end Stencil
