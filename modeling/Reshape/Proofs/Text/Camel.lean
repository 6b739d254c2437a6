import Mathlib.Data.List.Forall2
import Reshape.Text.Camel

/-!
# Camel case of words in ASCII

A text of letters, digits and underscores is cut into single characters, and its camel-case form is the
text without the underscores, each character in upper or lower case (`forall₂_recased_camel`).  Nothing is put
in front of a digit that comes first, nor in the place of a text that has underscores only.
-/

namespace Reshape
namespace Text

/-- Letters and digits, and the underscore. -/
def isWordChar (c : Char) : Bool :=
  c.isAlphanum || c == '_'

/-- The second character is the first in upper or in lower case. -/
def Recased (c d : Char) : Prop :=
  d = c.toUpper ∨ d = c.toLower

/-! ## Single characters -/

theorem toNat_lt_of_isAlphanum {c : Char} (h : c.isAlphanum = true) : c.toNat < 128 := by
  change (decide ('A'.val ≤ c.val ∧ c.val ≤ 'Z'.val) || decide ('a'.val ≤ c.val) && decide (c.val ≤ 'z'.val) ||
    decide ('0'.val ≤ c.val) && decide (c.val ≤ '9'.val)) = true at h
  simp only [Bool.or_eq_true, Bool.and_eq_true, decide_eq_true_eq, UInt32.le_iff_toNat_le] at h
  change c.val.toNat < 128
  rcases h with (⟨-, h⟩ | ⟨-, h⟩) | ⟨-, h⟩ <;> exact Nat.lt_of_le_of_lt h (by decide)

/-- What holds of each ASCII letter and digit holds of every letter and digit. -/
theorem forall_isAlphanum (p : Char → Prop)
    (h : ∀ n : Fin 128, (Char.ofNat n).isAlphanum = true → p (Char.ofNat n)) {c : Char}
    (hc : c.isAlphanum = true) : p c := by
  have hn := h ⟨c.toNat, toNat_lt_of_isAlphanum hc⟩
  rw [Char.ofNat_toNat] at hn
  exact hn hc

theorem caseImage_upper {c : Char} (h : c.isAlphanum = true) :
    caseImage upperSpecials upperRuns c = [c.toUpper] :=
  forall_isAlphanum (fun c => caseImage upperSpecials upperRuns c = [c.toUpper]) (by decide +kernel) h

theorem caseImage_lower {c : Char} (h : c.isAlphanum = true) :
    caseImage lowerSpecials lowerRuns c = [c.toLower] :=
  forall_isAlphanum (fun c => caseImage lowerSpecials lowerRuns c = [c.toLower]) (by decide +kernel) h

/-- Letters stay letters, and digits stay digits. -/
theorem Recased.class_eq {c d : Char} (h : Recased c d) (hc : c.isAlphanum = true) :
    d.isAlphanum = true ∧ d.isAlpha = c.isAlpha := by
  rcases h with rfl | rfl
  · exact forall_isAlphanum (fun c => c.toUpper.isAlphanum = true ∧ c.toUpper.isAlpha = c.isAlpha)
      (by decide +kernel) hc
  · exact forall_isAlphanum (fun c => c.toLower.isAlphanum = true ∧ c.toLower.isAlpha = c.isAlpha)
      (by decide +kernel) hc

theorem isWordChar_iff {c : Char} : isWordChar c = true ↔ c.isAlphanum = true ∨ c = '_' := by
  simp [isWordChar]

theorem printable_of_isWordChar {c : Char} (h : isWordChar c = true) : within 0x20 0x7e c = true := by
  rcases isWordChar_iff.1 h with h | rfl
  · exact forall_isAlphanum (fun c => within 0x20 0x7e c = true) (by decide +kernel) h
  · decide

/-- The underscore is the only separator among them. -/
theorem spelling_eq_separator_iff {c : Char} (h : isWordChar c = true) :
    Spelling.of [c] = .separator ↔ c = '_' := by
  rcases isWordChar_iff.1 h with h | rfl
  · exact forall_isAlphanum (fun c => Spelling.of [c] = .separator ↔ c = '_') (by decide +kernel) h
  · decide

/-! ## Case -/

theorem lowerAfter_eq_map {cs : List Char} (h : ∀ c ∈ cs, c.isAlphanum = true) (before : List Char) :
    lowerAfter before cs = cs.map Char.toLower := by
  induction cs generalizing before with
  | nil => rfl
  | cons c cs ih =>
    obtain ⟨hc, hcs⟩ := List.forall_mem_cons.1 h
    have hsigma : c ≠ 'Σ' := by
      rintro rfl
      exact absurd hc (by decide)
    rw [lowerAfter, if_neg hsigma, caseImage_lower hc, ih hcs]
    rfl

theorem forall₂_recased_lower {cs : List Char} (h : ∀ c ∈ cs, c.isAlphanum = true) :
    List.Forall₂ Recased cs (lower cs) := by
  rw [lower, lowerAfter_eq_map h, List.forall₂_map_right_iff]
  exact List.forall₂_same.2 fun c _ => .inr rfl

theorem forall₂_recased_capitalised {cs : List Char} (h : ∀ c ∈ cs, c.isAlphanum = true) :
    List.Forall₂ Recased cs (capitalised cs) := by
  cases cs with
  | nil => exact .nil
  | cons c cs =>
    obtain ⟨hc, hcs⟩ := List.forall_mem_cons.1 h
    have hfirst : upper [c] = [c.toUpper] := by
      rw [upper, List.flatMap_singleton, caseImage_upper hc]
    rw [capitalised, hfirst]
    exact .cons (.inl rfl) (forall₂_recased_lower hcs)

/-! ## Words -/

/-- No boundary between two characters is missing. -/
theorem clustersAfter_eq_map {cs : List Char} (h : ∀ c ∈ cs, within 0x20 0x7e c = true)
    (before : List Char) : clustersAfter before cs = cs.map ([·]) := by
  induction cs generalizing before with
  | nil => rfl
  | cons c cs ih =>
    obtain ⟨hc, hcs⟩ := List.forall_mem_cons.1 h
    rw [clustersAfter, ih hcs]
    cases cs with
    | nil => rfl
    | cons d cs =>
      have hd := (List.forall_mem_cons.1 hcs).1
      have hsticks : sticks before c d = false := by
        simp only [sticks, Joint.of, if_pos hc, if_pos hd]
      simp [hsticks]

/-- Cutting into words drops the separators and nothing else. -/
theorem flatten_wordsOf (clusters : List (List Char)) :
    (wordsOf clusters).flatten = clusters.filter fun c => Spelling.of c ≠ .separator := by
  induction clusters with
  | nil => rfl
  | cons c rest ih =>
    by_cases hc : Spelling.of c = .separator
    · simp [wordsOf, hc, ih]
    · rw [List.filter_cons_of_pos (by simpa using hc), ← ih]
      rw [wordsOf.eq_def]
      simp only [if_neg hc]
      cases wordsOf rest <;> split_ifs <;> rfl

/-- A text of word characters without its underscores is what its words have together. -/
theorem flatten_words {cs : List Char} (h : ∀ c ∈ cs, isWordChar c = true) :
    ((wordsOf (clusters cs)).map List.flatten).flatten = cs.filter (· ≠ '_') := by
  have hclusters : clusters cs = cs.map ([·]) :=
    clustersAfter_eq_map (fun c hc => printable_of_isWordChar (h c hc)) []
  have hfilter : (cs.map ([·])).filter (fun c => Spelling.of c ≠ .separator) =
      (cs.filter (· ≠ '_')).map ([·]) := by
    rw [List.filter_map]
    congr 1
    refine List.filter_congr fun c hc => ?_
    simp [spelling_eq_separator_iff (h c hc)]
  rw [← List.flatten_flatten, flatten_wordsOf, hclusters, hfilter]
  induction cs.filter (· ≠ '_') with
  | nil => rfl
  | cons c cs ih => simp_all

/-- **Camel case drops underscores and changes case only.**  Of a text of letters, digits and underscores,
the letters and digits are left in their order. -/
theorem forall₂_recased_camel {name : String} (h : ∀ c ∈ name.toList, isWordChar c = true) :
    List.Forall₂ Recased (name.toList.filter (· ≠ '_')) (camel name).toList := by
  have hwords := flatten_words h
  have hall : ∀ c ∈ name.toList.filter (· ≠ '_'), c.isAlphanum = true := by
    intro c hc
    obtain ⟨hmem, hne⟩ := List.mem_filter.1 hc
    exact (isWordChar_iff.1 (h c hmem)).resolve_right (of_decide_eq_true hne)
  rw [← hwords] at hall ⊢
  rw [camel]
  revert hall
  generalize (wordsOf (clusters name.toList)).map List.flatten = words
  intro hall
  cases words with
  | nil => exact .nil
  | cons first others =>
    rw [String.toList_ofList, List.flatten_cons]
    rw [List.flatten_cons, List.forall_mem_append] at hall
    refine List.rel_append (forall₂_recased_lower hall.1) ?_
    obtain ⟨-, hothers⟩ := hall
    induction others with
    | nil => exact .nil
    | cons w ws ih =>
      rw [List.flatten_cons, List.forall_mem_append] at hothers
      exact List.rel_append (forall₂_recased_capitalised hothers.1) (ih hothers.2)

end Text
end Reshape
