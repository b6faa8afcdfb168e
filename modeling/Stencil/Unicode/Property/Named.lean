import Stencil.Unicode.Range

/-!
# Sets of characters with names

The standard gives its properties, and the values of its properties, several names each. Names are
compared loosely: case, blanks, hyphens and low lines do not count, nor does an "is" at the front.
Where a table lists names, it lists them in that loose form (`looseName`).
-/

namespace Stencil.Unicode

/-- A set of characters under the names that it goes by. -/
structure Named where
  names : List String
  rows : List String

/-- The set itself. -/
def Named.ranges (named : Named) : Ranges := .ofRows named.rows

/-- The set of a name. -/
def find? (table : List Named) (name : String) : Option Ranges :=
  (table.find? (·.names.contains name)).map Named.ranges

/-- The set of a name, which is empty where the table lists no such name. -/
def find (table : List Named) (name : String) : Ranges := (find? table name).getD []

/-- The form in which names are compared. Characters beyond ASCII do not count either. The name of
one property that starts with "is" is nothing but "isc", and stays. -/
def looseName (name : List Char) : String :=
  let counts (c : Char) : Bool := c.toNat < 0x80 && c != ' ' && c != '_' && c != '-'
  let loose (s : List Char) : List Char := (s.filter counts).map Char.toLower
  match name with
  | i :: s :: rest =>
    if i.toLower = 'i' && s.toLower = 's' then
      if loose rest = ['c'] then "isc" else String.ofList (loose rest)
    else String.ofList (loose name)
  | _ => String.ofList (loose name)

end Stencil.Unicode
