import Reshape.Config.Toml
import Reshape.Error.Basic
import Reshape.Number.Written
import Reshape.Projection.NameMatch
import Reshape.Schema.Validation

/-!
# Settings

What a workspace can be told in a text: the limits of type synthesis and how names are compared.
What is not said has its default; what is not known is refused.
-/

namespace Reshape

/-- How names are compared. -/
inductive MatchKind where
  /-- In camel case. -/
  | camelCase
  /-- As they are. -/
  | exact
deriving DecidableEq, Repr, Inhabited

namespace MatchKind

/-- The strategy of a kind. -/
def strategy : MatchKind → NameStrategy
  | camelCase => .camelCase
  | exact => .exact

/-- The name of a kind. -/
def text : MatchKind → String
  | camelCase => "CamelCase"
  | exact => "Exact"

/-- The word for a kind in settings. -/
def word : MatchKind → String
  | camelCase => "camel_case"
  | exact => "exact"

/-- The kind that a word stands for. -/
def ofWord? (s : String) : Option MatchKind :=
  if s = "camel_case" then some camelCase else if s = "exact" then some exact else none

/-- The kind that an item says: its word, or an empty table under its word. -/
def ofItem? : Toml.Item → Option MatchKind
  | .value (.text w) => ofWord? w
  | .table _ [(w, .table _ [])] => ofWord? w
  | _ => none

end MatchKind

/-- The settings of a workspace. -/
structure Settings where
  /-- Limits of type synthesis. -/
  synthesis : SynthesisOptions
  /-- How names are compared. -/
  matching : MatchKind
deriving DecidableEq, Repr, Inhabited

namespace Settings

/-- The settings that hold if nothing is said. -/
def default : Settings := ⟨.default, .camelCase⟩

/-- A size: an integer from zero up to the largest 64-bit number. -/
def size? : Toml.Scalar → Option Nat
  | .integer n => if 0 ≤ n ∧ n ≤ 18446744073709551615 then some n.toNat else none
  | _ => none

/-- Apply one key of the limits of synthesis. -/
def limit? (s : SynthesisOptions) : String × Toml.Item → Option SynthesisOptions
  | ("max_type_name_len", .value v) => (size? v).map fun n => { s with maxNameLength := n }
  | ("max_members", .value v) => (size? v).map fun n => { s with maxMembers := n }
  | ("allow_resynthesis", .value (.bool b)) => some { s with allowResynthesis := b }
  | _ => none

/-- The limits that an item says. -/
def limits? : Toml.Item → Option SynthesisOptions
  | .table _ entries => entries.foldlM limit? .default
  | _ => none

/-- The comparison of names that an item says: a table with the key for it or without, or a list of
tables of which the first says it. -/
def matching? : Toml.Item → Option MatchKind
  | .table _ [] => some .camelCase
  | .table _ [("match_strategy", item)] => MatchKind.ofItem? item
  | .tables (first :: _) => MatchKind.ofItem? (.table .header first)
  | _ => none

/-- Apply one key. -/
def set? (s : Settings) : String × Toml.Item → Option Settings
  | ("synthesis", item) => (limits? item).map fun synthesis => { s with synthesis }
  | ("projection", item) => (matching? item).map fun matching => { s with matching }
  | _ => none

/-- The settings that a text says, if it is well formed and says nothing unknown. -/
def parse? (s : String) : Option Settings := do
  let d ← Toml.Document.ofStatements? (← Toml.read s)
  d.root.foldlM set? default

/-- The settings that a text says, or the complaint about it. -/
def parse (s : String) : Except Report Settings :=
  match parse? s with
  | some settings => .ok settings
  | none => .error ⟨.invalidOperation, .config, "failed to parse recast configuration"⟩

/-- The text that says the settings. -/
def render (s : Settings) : String :=
  "[synthesis]\n" ++
  "max_type_name_len = " ++ Number.digitText s.synthesis.maxNameLength ++ "\n" ++
  "max_members = " ++ Number.digitText s.synthesis.maxMembers ++ "\n" ++
  "allow_resynthesis = " ++ (if s.synthesis.allowResynthesis then "true" else "false") ++ "\n" ++
  "\n" ++
  "[projection]\n" ++
  "match_strategy = \"" ++ s.matching.word ++ "\"\n"

end Settings
end Reshape
