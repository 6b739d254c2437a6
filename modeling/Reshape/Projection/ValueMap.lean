import Reshape.Expr.Build

/-!
# Value maps

A value map replaces source values before they are assigned.  It becomes a chain of comparisons over
the source value, which is evaluated once: the first key that equals it gives the value, and if none
does, what the map says about unmapped values.
-/

namespace Reshape

/-- What a value map yields when no key matches. -/
inductive UnmappedPolicy where
  /-- A fixed value, converted to the target type. -/
  | constant (value : Value)
  /-- The source value, converted to the target type. -/
  | passThrough
  /-- The zero value of the target type. -/
  | zero
deriving DecidableEq, Inhabited

/-- Replacements of source values, in order. -/
structure ValueMap where
  /-- Keys and what replaces them. -/
  entries : List (Value × Value)
  /-- What happens to other values. -/
  unmapped : UnmappedPolicy
deriving DecidableEq, Inhabited

namespace ValueMap

/-- The type of the first replacement that has one by itself. -/
def mappedType? (t : TypeTable) (m : ValueMap) : Option ValueType :=
  m.entries.findSome? fun (_, v) => t.naturalType? v

/-- What stands at the end of the chain, over a source value. -/
def fallback (t : TypeTable) (m : ValueMap) (source : Expr) (target : ValueType) :
    Except Error Expr :=
  match m.unmapped with
  | .constant v => Expr.typedLiteral t v target
  | .passThrough => source.coerce t target
  | .zero => .ok (.zero target)

/-- One comparison in front of a chain. -/
def link (t : TypeTable) (source : Expr) (target : ValueType) (entry : Value × Value)
    (otherwise : Expr) : Except Error Expr := do
  let key ←
    match Expr.typedLiteral t entry.1 source.type with
    | .ok key => pure key
    | .error cause => throw (.inContext (.mapKey entry.1) cause)
  let test ← Expr.mkBinary t .eq source key
  let value ← Expr.typedLiteral t entry.2 target
  Expr.mkConditional t test value otherwise

/-- The comparisons of several entries in front of what follows them. -/
def chain (t : TypeTable) (source : Expr) (target : ValueType) (last : Expr) :
    List (Value × Value) → Except Error Expr
  | [] => .ok last
  | entry :: rest => do
    let otherwise ← chain t source target last rest
    link t source target entry otherwise

/-- The map over a source value, as an expression of the target type. -/
def lower (t : TypeTable) (m : ValueMap) (source : Expr) (target : ValueType) : Build Expr :=
  Expr.bindIn source fun s => Build.ofExcept do
    let last ← m.fallback t s target
    chain t s target last m.entries

end ValueMap
end Reshape
