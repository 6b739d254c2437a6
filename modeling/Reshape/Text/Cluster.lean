import Reshape.Text.ClusterTable

/-!
# User-perceived characters

`clusters` cuts a text into what a reader sees as single characters: a base with its marks, a Hangul
syllable, a conjunct, a flag, a joined picture.  Whether a boundary lies between two neighbours is
decided by their joints and, for conjuncts, flags and pictures, by what stands before them.
`clusters_flatten` says that cutting loses nothing.
-/

namespace Reshape
namespace Text

/-- What a code point does at a boundary between clusters. -/
inductive Joint where
  /-- The carriage return, which stays with a line feed. -/
  | carriageReturn
  /-- The line feed. -/
  | lineFeed
  /-- Stands alone. -/
  | control
  /-- A mark on what stands before it. -/
  | extender
  /-- The zero-width joiner, a mark that also joins pictures. -/
  | joiner
  /-- A mark that takes space of its own. -/
  | spacing
  /-- A sign on what stands after it. -/
  | prepended
  /-- A Hangul consonant that begins a syllable. -/
  | leading
  /-- A vowel of a syllable. -/
  | vowel
  /-- A Hangul consonant that ends a syllable. -/
  | trailing
  /-- A Hangul syllable that a vowel or a consonant may still follow. -/
  | openSyllable
  /-- A Hangul syllable that ends with a consonant. -/
  | closedSyllable
  /-- Half of a flag. -/
  | regional
  /-- A picture. -/
  | pictograph
  /-- A consonant that conjuncts are made of. -/
  | consonant
  /-- Anything else. -/
  | other
deriving DecidableEq, Repr

/-- Whether a code point lies between two others. -/
def within (first last : Nat) (c : Char) : Bool :=
  first ≤ c.toNat && c.toNat ≤ last

/-- The joint of a code point. -/
def Joint.of (c : Char) : Joint :=
  if within 0x20 0x7e c then .other
  else if c = '\r' then .carriageReturn
  else if c = '\n' then .lineFeed
  else if c = '\u200d' then .joiner
  else if extending.contains c || within 0x1f3fb 0x1f3ff c then .extender
  else if controlling.contains c then .control
  else if spacingMarks.contains c then .spacing
  else if prependedSigns.contains c then .prepended
  else if within 0xac00 0xd7a3 c then
    if (c.toNat - 0xac00) % 28 = 0 then .openSyllable else .closedSyllable
  else if leadingConsonants.contains c then .leading
  else if syllableVowels.contains c then .vowel
  else if trailingConsonants.contains c then .trailing
  else if within 0x1f1e6 0x1f1ff c then .regional
  else if conjunctConsonants.contains c then .consonant
  else if pictographic.contains c then .pictograph
  else .other

/-- Whether a code point may stand between the consonants of a conjunct: any mark but the zero-width
non-joiner. -/
def staysInConjunct (c : Char) : Bool :=
  c != '\u200c' && (Joint.of c == .extender || Joint.of c == .joiner)

/-- Whether a text, given in reverse, ends with a consonant and marks that link it to the next one. -/
def opensConjunct (before : List Char) : Bool :=
  (before.takeWhile staysInConjunct).any conjunctLinkers.contains &&
    (before.dropWhile staysInConjunct).head?.map Joint.of == some .consonant

/-- Whether a text, given in reverse, ends with a picture and marks on it. -/
def endsPicture (before : List Char) : Bool :=
  (before.dropWhile (Joint.of · == .extender)).head?.map Joint.of == some .pictograph

/-- Whether a text, given in reverse, ends with half a flag whose other half is missing. -/
def opensFlag (before : List Char) : Bool :=
  (before.takeWhile (Joint.of · == .regional)).length % 2 == 1

/-- Whether no boundary lies between `c` and `d`, where `before` is the reversed text before `c`. -/
def sticks (before : List Char) (c d : Char) : Bool :=
  match Joint.of c, Joint.of d with
  | .carriageReturn, .lineFeed => true
  | .carriageReturn, _ | .lineFeed, _ | .control, _ => false
  | _, .carriageReturn | _, .lineFeed | _, .control => false
  | _, .extender | _, .joiner | _, .spacing => true
  | .prepended, _ => true
  | .leading, .leading | .leading, .vowel | .leading, .openSyllable => true
  | .leading, .closedSyllable => true
  | .openSyllable, .vowel | .openSyllable, .trailing | .vowel, .vowel | .vowel, .trailing => true
  | .closedSyllable, .trailing | .trailing, .trailing => true
  | _, .consonant => opensConjunct (c :: before)
  | .joiner, .pictograph => endsPicture before
  | .regional, .regional => opensFlag (c :: before)
  | _, _ => false

/-- Cut a text into clusters, where `before` is the reversed text before it. -/
def clustersAfter : List Char → List Char → List (List Char)
  | _, [] => []
  | before, c :: rest =>
    match clustersAfter (c :: before) rest with
    | (d :: ds) :: more =>
      if sticks before c d then (c :: d :: ds) :: more else [c] :: (d :: ds) :: more
    | more => [c] :: more

/-- Cut a text into clusters. -/
def clusters (cs : List Char) : List (List Char) :=
  clustersAfter [] cs

/-- Cutting the end of a text loses nothing. -/
theorem clustersAfter_flatten (before cs : List Char) :
    (clustersAfter before cs).flatten = cs := by
  fun_induction clustersAfter before cs with
  | case1 => rfl
  | case2 before c rest d ds more h hs ih => simp_all
  | case3 before c rest d ds more h hs ih => simp_all
  | case4 before c rest h ih => simp_all

/-- Cutting loses nothing. -/
theorem clusters_flatten (cs : List Char) : (clusters cs).flatten = cs :=
  clustersAfter_flatten [] cs

end Text
end Reshape
