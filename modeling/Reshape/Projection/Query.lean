import Reshape.Projection.Compiled

/-!
# Queries

A compiled projection over rows.  Each row is projected by itself, so a row that fails does not
concern the others.
-/

namespace Reshape
namespace Query

/-- The first column that is listed twice, and the place where it is repeated. -/
def repeated? : List String → List (String × Nat) → Option (String × Nat)
  | _, [] => none
  | seen, (column, place) :: rest =>
    if seen.contains column then some (column, place) else repeated? (column :: seen) rest

/-- Refuse a list of columns with a repetition. -/
def checkColumns (columns : List String) : Except Error Unit :=
  match repeated? [] columns.zipIdx with
  | some (column, place) => .error (.repeatedColumn column place)
  | none => .ok ()

/-- Project one row after the other: what each gives, and the store after all. -/
def rows (m : Machine) (p : Projection) : List Value → Store → List (Except Error Value × Store)
  | [], _ => []
  | row :: rest, s =>
    let (result, s) := (p.apply m row).perform s
    (result, s) :: rows m p rest s

end Query
end Reshape
