import Reshape.Proofs.Schema.Constructors
import Reshape.Proofs.Text.Camel

/-!
# Names of constructor parameters

The parameters of an accepted descriptor have different names, made of letters, digits and underscores.  A name
that is given was checked, but one that is made from the name of the member was not: it is an identifier exactly
if the first character of the member's name that is no underscore is a letter
(`Descriptor.parameters_identifiers_iff`).  The parameter for a member `_1` is called `1`, and that for a member
`_` has an empty name (`Descriptor.exists_parameter_not_identifier`).
-/

namespace Reshape

open Text (isWordChar camel Recased)

/-! ## Identifiers -/

theorem isDigit_eq_false_iff {c : Char} (h : isWordChar c = true) :
    c.isDigit = false ↔ c.isAlpha = true ∨ c = '_' := by
  rcases Text.isWordChar_iff.1 h with h | rfl
  · exact Text.forall_isAlphanum (fun c => c.isDigit = false ↔ c.isAlpha = true ∨ c = '_')
      (by decide +kernel) h
  · decide

/-- Word characters are in ASCII. -/
theorem all_ascii_of_isWordChar {cs : List Char} (h : ∀ c ∈ cs, isWordChar c = true) :
    cs.any (fun c => 128 ≤ c.toNat) = false := by
  refine List.any_eq_false.2 fun c hc => ?_
  have hprintable := Text.printable_of_isWordChar (h c hc)
  simp only [Text.within, Bool.and_eq_true, decide_eq_true_eq] at hprintable
  simp only [decide_eq_true_eq, Nat.not_le]
  omega

/-- A name is an identifier if it is made of word characters and begins with one that is no digit. -/
theorem nameViolation?_eq_none_iff {name : String} : nameViolation? name = none ↔
    (∀ c ∈ name.toList, isWordChar c = true) ∧ ∃ c, name.toList.head? = some c ∧ c.isDigit = false := by
  rw [nameViolation?]
  cases name.toList with
  | nil => simp
  | cons first rest =>
    simp only [List.head?_cons, Option.some.injEq, exists_eq_left']
    constructor
    · intro h
      split_ifs at h with hascii hshape
      simp only [Bool.and_eq_true, Bool.or_eq_true, beq_iff_eq, List.all_eq_true] at hshape
      have hfirst : isWordChar first = true :=
        Text.isWordChar_iff.2 (hshape.1.imp_left fun h => by simp [Char.isAlphanum, h])
      refine ⟨List.forall_mem_cons.2 ⟨hfirst, fun c hc => ?_⟩, (isDigit_eq_false_iff hfirst).2 hshape.1⟩
      exact Text.isWordChar_iff.2 (hshape.2 c hc)
    · rintro ⟨hall, hdigit⟩
      have hfirst := (List.forall_mem_cons.1 hall).1
      rw [all_ascii_of_isWordChar hall, if_neg Bool.false_ne_true, if_pos]
      simp only [Bool.and_eq_true, Bool.or_eq_true, beq_iff_eq, List.all_eq_true]
      exact ⟨(isDigit_eq_false_iff hfirst).1 hdigit,
        fun c hc => Text.isWordChar_iff.1 (hall c (List.mem_cons_of_mem _ hc))⟩

/-- Whether the first character of a name that is no underscore is a letter. -/
def startsWithLetter (name : String) : Bool :=
  (name.toList.filter (· ≠ '_')).head?.any Char.isAlpha

/-- Camel case makes word characters of word characters. -/
theorem isWordChar_of_mem_camel {name : String} (h : ∀ c ∈ name.toList, isWordChar c = true) :
    ∀ c ∈ (camel name).toList, isWordChar c = true := by
  intro d hd
  obtain ⟨c, hc, hrecased⟩ := exists_of_mem_forall₂ (Text.forall₂_recased_camel h) hd
  obtain ⟨hmem, hne⟩ := List.mem_filter.1 hc
  have halnum := (Text.isWordChar_iff.1 (h c hmem)).resolve_right (of_decide_eq_true hne)
  exact Text.isWordChar_iff.2 (.inl (hrecased.class_eq halnum).1)

/-- The camel-case form of an identifier is an identifier if a letter comes first when underscores are
dropped. -/
theorem nameViolation?_camel_iff {name : String} (h : nameViolation? name = none) :
    nameViolation? (camel name) = none ↔ startsWithLetter name = true := by
  obtain ⟨hall, -⟩ := nameViolation?_eq_none_iff.1 h
  have hcamel := isWordChar_of_mem_camel hall
  have hrecased := Text.forall₂_recased_camel hall
  have hkept : ∀ c ∈ name.toList.filter (· ≠ '_'), c.isAlphanum = true := by
    intro c hc
    obtain ⟨hmem, hne⟩ := List.mem_filter.1 hc
    exact (Text.isWordChar_iff.1 (hall c hmem)).resolve_right (of_decide_eq_true hne)
  rw [nameViolation?_eq_none_iff, startsWithLetter]
  revert hrecased hkept hcamel
  generalize name.toList.filter (· ≠ '_') = kept, (camel name).toList = form
  intro hcamel hrecased hkept
  cases hrecased with
  | nil => simp
  | @cons c d kept form hfirst _ =>
    obtain ⟨halnum, halpha⟩ := hfirst.class_eq (hkept c (List.mem_cons_self ..))
    have hunderscore : d ≠ '_' := by
      rintro rfl
      exact absurd halnum (by decide)
    have hd := isDigit_eq_false_iff (hcamel d (List.mem_cons_self ..))
    simp only [List.head?_cons, Option.some.injEq, exists_eq_left', Option.any_some, hd, halpha,
      hunderscore, or_false]
    exact and_iff_right hcamel

/-! ## Parameters -/

namespace TypeTable

variable {t : TypeTable} {o : SynthesisOptions} {d : Descriptor}

/-- The names that an accepted descriptor gives to a member and to its parameter are identifiers. -/
theorem nameViolation?_of_validate (h : t.validate o d = .ok ()) {m : MemberDescriptor} (hm : m ∈ d.members) :
    nameViolation? m.name = none ∧
      ∀ name, m.binding.isBound = true → m.parameter? = some name → nameViolation? name = none := by
  obtain ⟨hnodes, -⟩ := validate_eq_ok_iff.1 h
  have hmember : t.memberViolations m = [] := by
    refine hnodes (nodeRoute d.name m.name, t.memberViolations m) ?_
    rw [nodeViolations, List.cons_append]
    exact List.mem_cons_of_mem _ (List.mem_append_left _ (List.mem_map_of_mem hm))
  simp only [memberViolations, bindingViolations, List.append_eq_nil_iff, Option.toList_eq_nil_iff] at hmember
  obtain ⟨⟨hname, -⟩, -, hparameter⟩ := hmember
  refine ⟨hname, fun name hbound hgiven => ?_⟩
  rw [hgiven] at hparameter
  simpa only [hbound, if_true] using hparameter

end TypeTable

namespace Descriptor

variable {t : TypeTable} {o : SynthesisOptions} {d : Descriptor}

/-- The name of the parameter for a bound member, given or not. -/
theorem nameViolation?_parameterFor_iff (h : t.validate o d = .ok ()) {m : MemberDescriptor}
    (hm : m ∈ d.members) (hbound : m.binding.isBound = true) :
    (∀ c ∈ (parameterFor t m).name.toList, isWordChar c = true) ∧
      (nameViolation? (parameterFor t m).name = none ↔
        (m.parameter? = none → startsWithLetter m.name = true)) := by
  obtain ⟨hname, hgiven⟩ := TypeTable.nameViolation?_of_validate h hm
  cases hparameter : m.parameter? with
  | none =>
    rw [parameterFor_name hparameter]
    refine ⟨isWordChar_of_mem_camel (nameViolation?_eq_none_iff.1 hname).1, ?_⟩
    simpa using nameViolation?_camel_iff hname
  | some name =>
    have hown : (parameterFor t m).name = name := by
      rw [parameterFor, MemberDescriptor.parameterName, hparameter, Option.getD_some]
    have hvalid := hgiven name hbound hparameter
    rw [hown]
    exact ⟨(nameViolation?_eq_none_iff.1 hvalid).1, by simp [hvalid]⟩

/-- **Names of parameters.**  The parameters of an accepted descriptor have different names, made of letters,
digits and underscores.  The name of a parameter is an identifier exactly if it was given, or the first character
of the member's name that is no underscore is a letter. -/
theorem parameters_identifiers_iff (h : t.validate o d = .ok ()) :
    ((d.parameters t).map (·.name)).Nodup ∧
    (∀ p ∈ d.parameters t, ∀ c ∈ p.name.toList, isWordChar c = true) ∧
    (∀ m ∈ d.members, m.binding.isBound = true → parameterFor t m ∈ d.parameters t ∧
      (nameViolation? (parameterFor t m).name = none ↔
        (m.parameter? = none → startsWithLetter m.name = true))) ∧
    ((∀ p ∈ d.parameters t, nameViolation? p.name = none) ↔
      ∀ m ∈ d.members, m.binding.isBound = true → m.parameter? = none → startsWithLetter m.name = true) := by
  refine ⟨(TypeTable.wellformed_of_validate h).parameterNames, fun p hp => ?_, fun m hm hbound => ?_, ?_⟩
  · obtain ⟨m, hm, hbound, rfl⟩ := mem_parameters_iff.1 hp
    exact (nameViolation?_parameterFor_iff h hm hbound).1
  · exact ⟨mem_parameters_iff.2 ⟨m, hm, hbound, rfl⟩, (nameViolation?_parameterFor_iff h hm hbound).2⟩
  · constructor
    · intro hall m hm hbound
      exact (nameViolation?_parameterFor_iff h hm hbound).2.1
        (hall _ (mem_parameters_iff.2 ⟨m, hm, hbound, rfl⟩))
    · intro hall p hp
      obtain ⟨m, hm, hbound, rfl⟩ := mem_parameters_iff.1 hp
      exact (nameViolation?_parameterFor_iff h hm hbound).2.2 (hall m hm hbound)

/-- A type whose constructor takes the properties of some names, with the names that are given to the
parameters. -/
def taking (names : List (String × Option String)) : Descriptor :=
  ⟨"Record", none, [], [], names.map fun (name, parameter?) =>
    ⟨name, .int32, false, .open, .open, .required, parameter?⟩, []⟩

/-- The parameter for `_1` needs a name, that for `_size` does not. -/
theorem parameters_identifiers_at_record :
    TypeTable.empty.validate .default (taking [("_1", some "first"), ("_size", none)]) = .ok () ∧
    ∀ p ∈ (taking [("_1", some "first"), ("_size", none)]).parameters .empty, nameViolation? p.name = none := by
  have hvalid : TypeTable.empty.validate .default (taking [("_1", some "first"), ("_size", none)]) = .ok () :=
    TypeTable.validate_of_checks rfl rfl
  refine ⟨hvalid, (parameters_identifiers_iff hvalid).2.2.2.2 ?_⟩
  decide

/-- **A parameter need not have an identifier for its name.**  That for `_1` is called `1`, and that for `_` has
an empty name. -/
theorem exists_parameter_not_identifier : ¬∀ (t : TypeTable) (o : SynthesisOptions) (d : Descriptor),
    t.validate o d = .ok () → ((d.parameters t).map (·.name)).Nodup ∧
      ∀ p ∈ d.parameters t, nameViolation? p.name = none := by
  intro hall
  have hvalid : TypeTable.empty.validate .default (taking [("_1", none), ("_", none)]) = .ok () :=
    TypeTable.validate_of_checks rfl rfl
  obtain ⟨-, hnames⟩ := hall _ _ _ hvalid
  have hone := hnames ⟨"1", "_1", .int32, none⟩ (by decide +kernel)
  exact absurd hone (by decide)

end Descriptor
end Reshape
