import Reshape.Text.Case
import Reshape.Text.Cluster

/-!
# Camel case

A name is cut into words at underscores, hyphens and spaces, which are dropped, and where the
spelling shows a new word: a capital after a small letter, a digit beside a letter, and the last
capital of an acronym that a small letter follows.  Empty words stay, so a leading underscore makes
the first word empty.  The camel-case form writes the first word small and capitalises the others.
-/

namespace Reshape
namespace Text

/-- How a cluster takes part in the word boundaries of a name. -/
inductive Spelling where
  /-- An underscore, a hyphen or a space. -/
  | separator
  /-- A capital. -/
  | capital
  /-- A small letter. -/
  | small
  /-- An ASCII digit. -/
  | digit
  /-- Anything else. -/
  | other
deriving DecidableEq, Repr

/-- The spelling class of a cluster. -/
def Spelling.of (cluster : List Char) : Spelling :=
  if cluster = ['_'] ∨ cluster = ['-'] ∨ cluster = [' '] then .separator
  else if cluster.all Char.isDigit then .digit
  else
    let up := upper cluster
    let low := lower cluster
    if up = low then .other
    else if cluster = up then .capital
    else if cluster = low then .small
    else .other

/-- Whether a word ends between the first two of three neighbouring clusters (the third may be
missing). -/
def endsWord : Spelling → Spelling → Option Spelling → Bool
  | .small, .capital, _ => true
  | .small, .digit, _ => true
  | .capital, .digit, _ => true
  | .digit, .small, _ => true
  | .digit, .capital, _ => true
  | .capital, .capital, some .small => true
  | _, _, _ => false

/-- The words of a list of clusters; there is always at least one, perhaps empty. -/
def wordsOf : List (List Char) → List (List (List Char))
  | [] => [[]]
  | c :: rest =>
    let words := wordsOf rest
    if Spelling.of c = .separator then [] :: words
    else
      let ends :=
        match rest with
        | [] => false
        | d :: more => endsWord (Spelling.of c) (Spelling.of d) (more.head?.map Spelling.of)
      if ends then [c] :: words
      else
        match words with
        | [] => [[c]]
        | w :: ws => (c :: w) :: ws

/-- The first character of a word in upper case, the rest in lower case.  Marks on the first character
belong to the rest. -/
def capitalised : List Char → List Char
  | [] => []
  | c :: rest => upper [c] ++ lower rest

/-- The camel-case form of a name. -/
def camel (name : String) : String :=
  match (wordsOf (clusters name.toList)).map List.flatten with
  | [] => ""
  | first :: others => String.ofList (lower first ++ others.flatMap capitalised)

end Text
end Reshape
