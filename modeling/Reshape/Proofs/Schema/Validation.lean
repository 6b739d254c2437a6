import Mathlib.Data.List.Nodup
import Reshape.Proofs.Outcome
import Reshape.Schema.Validation

/-!
# What an accepted descriptor keeps

No operation on error trees loses a message, so a tree is empty only if everything filed in it was
(`ErrorTree.isEmpty_mergeAt`).  A descriptor is therefore accepted exactly when no node and no rule
across nodes breaks anything (`TypeTable.validate_eq_ok_iff`).  What emission needs of this is
collected in `Descriptor.Wellformed`: names that are there and are not repeated, parameters that are
told apart, and defaults that convert.
-/

namespace Reshape

/-! ## Empty trees -/

namespace ErrorTree

variable {α : Type}

theorem isEmpty_empty : (empty : ErrorTree α).isEmpty = true := rfl

theorem isEmpty_add (message : α) (tree : ErrorTree α) : (tree.add message).isEmpty = false := by
  cases tree
  simp [add, isEmpty]

/-- A change below a segment that empties nothing empties nothing. -/
theorem childrenEmpty_changeChild {f : ErrorTree α → ErrorTree α} {b : Bool}
    (hf : ∀ tree, (f tree).isEmpty = (tree.isEmpty && b)) (segment : String)
    (children : List (String × ErrorTree α)) :
    childrenEmpty (changeChild segment f children) = (childrenEmpty children && b) := by
  induction children with
  | nil => simp [changeChild, childrenEmpty, hf, isEmpty_empty]
  | cons child rest ih =>
    obtain ⟨key, child⟩ := child
    rw [changeChild]
    split
    · simp only [childrenEmpty, hf]
      cases child.isEmpty <;> cases b <;> simp
    · split
      · simp [childrenEmpty, hf, isEmpty_empty, Bool.and_comm]
      · simp only [childrenEmpty, ih, Bool.and_assoc]

theorem isEmpty_changeAt {f : ErrorTree α → ErrorTree α} {b : Bool}
    (hf : ∀ tree, (f tree).isEmpty = (tree.isEmpty && b)) (route : List String)
    (tree : ErrorTree α) : (changeAt f route tree).isEmpty = (tree.isEmpty && b) := by
  induction route generalizing tree with
  | nil => exact hf tree
  | cons segment route ih =>
    cases tree with
    | node messages children =>
      simp only [changeAt, isEmpty, childrenEmpty_changeChild ih, Bool.and_assoc]

mutual

theorem isEmpty_merge (into : ErrorTree α) :
    (added : ErrorTree α) → (merge into added).isEmpty = (into.isEmpty && added.isEmpty)
  | node more added => by
    cases into with
    | node messages children =>
      have happend : (messages ++ more).isEmpty = (messages.isEmpty && more.isEmpty) := by
        cases messages <;> simp
      simp only [merge, isEmpty, childrenEmpty_mergeChildren children added, happend]
      cases messages.isEmpty <;> cases more.isEmpty <;> simp

theorem childrenEmpty_mergeChildren (into : List (String × ErrorTree α)) :
    (added : List (String × ErrorTree α)) →
      childrenEmpty (mergeChildren into added) = (childrenEmpty into && childrenEmpty added)
  | [] => by simp [mergeChildren, childrenEmpty]
  | (key, child) :: rest => by
    rw [mergeChildren, childrenEmpty_mergeChildren _ rest,
      childrenEmpty_changeChild (fun tree => isEmpty_merge tree child), childrenEmpty,
      Bool.and_assoc]

end

/-- A merged tree is empty only if both trees are. -/
theorem isEmpty_mergeAt (route : String) (added tree : ErrorTree α) :
    (mergeAt route added tree).isEmpty = (tree.isEmpty && added.isEmpty) := by
  rw [mergeAt]
  split
  · exact isEmpty_merge tree added
  · exact isEmpty_changeAt (fun old => isEmpty_merge old added) _ tree

theorem isEmpty_addAt (route : String) (message : α) (tree : ErrorTree α) :
    (addAt route message tree).isEmpty = false := by
  rw [addAt, isEmpty_changeAt (b := false) (fun tree => by simp [isEmpty_add])]
  simp

end ErrorTree

/-! ## Acceptance -/

namespace TypeTable

variable {t : TypeTable}

theorem isEmpty_nodeTree (violations : List Violation) :
    (nodeTree violations).isEmpty = violations.isEmpty := by
  rw [nodeTree, ← List.reverse_reverse violations, List.foldl_reverse]
  cases violations.reverse with
  | nil => rfl
  | cons v rest => simp [ErrorTree.isEmpty_add]

theorem isEmpty_crossTree (violations : List Filed) :
    (crossTree violations).isEmpty = violations.isEmpty := by
  rw [crossTree, ← List.reverse_reverse violations, List.foldl_reverse]
  cases violations.reverse with
  | nil => rfl
  | cons v rest =>
    obtain ⟨member?, v⟩ := v
    cases member? <;> simp [ErrorTree.isEmpty_add, ErrorTree.isEmpty_addAt]

/-- A descriptor is accepted exactly when no rule is broken. -/
theorem validate_eq_ok_iff {o : SynthesisOptions} {d : Descriptor} :
    t.validate o d = .ok () ↔
      (∀ node ∈ t.nodeViolations d, node.2 = []) ∧ t.crossViolations o d = [] := by
  have hnodes : ∀ (nodes : List (String × List Violation)) (tree : ErrorTree Violation),
      (nodes.foldl (fun tree node =>
        if node.2.isEmpty then tree else ErrorTree.mergeAt node.1 (nodeTree node.2) tree) tree).isEmpty =
        (tree.isEmpty && nodes.all fun node => node.2.isEmpty) := by
    intro nodes
    induction nodes with
    | nil => simp
    | cons node rest ih =>
      intro tree
      rw [List.foldl_cons, ih, List.all_cons]
      by_cases h : node.2.isEmpty = true
      · simp [h]
      · simp [h, ErrorTree.isEmpty_mergeAt, isEmpty_nodeTree]
  have hempty : (t.violations o d).isEmpty =
      ((t.nodeViolations d).all (fun node => node.2.isEmpty) && (t.crossViolations o d).isEmpty) := by
    rw [violations, ErrorTree.isEmpty_mergeAt, isEmpty_crossTree]
    refine congrArg (· && (t.crossViolations o d).isEmpty) ((hnodes _ _).trans ?_)
    simp [ErrorTree.isEmpty_empty]
  have hiff : (t.violations o d).isEmpty = true ↔
      (∀ node ∈ t.nodeViolations d, node.2 = []) ∧ t.crossViolations o d = [] := by
    rw [hempty, Bool.and_eq_true, List.all_eq_true]
    simp only [List.isEmpty_iff]
  rw [← hiff, validate, ErrorTree.result]
  cases (t.violations o d).isEmpty <;> simp

/-- The rules can be checked one after the other. -/
theorem validate_of_checks {o : SynthesisOptions} {d : Descriptor}
    (hnodes : ((t.nodeViolations d).all fun node => node.2.isEmpty) = true)
    (hcross : (t.crossViolations o d).isEmpty = true) : t.validate o d = .ok () := by
  rw [List.all_eq_true] at hnodes
  refine validate_eq_ok_iff.2 ⟨fun node hnode => ?_, List.isEmpty_iff.1 hcross⟩
  exact List.isEmpty_iff.1 (hnodes node hnode)

end TypeTable

/-! ## What emission needs -/

/-- What is left of an accepted descriptor for emission: names are there and told apart, and defaults
convert. -/
structure Descriptor.Wellformed (t : TypeTable) (d : Descriptor) : Prop where
  /-- The type has a name. -/
  named : d.name.isEmpty = false
  /-- Each member has a name. -/
  memberNamed : ∀ m ∈ d.members, m.name.isEmpty = false
  /-- No two members have one name. -/
  memberNames : (d.members.map (·.name)).Nodup
  /-- No two constructor parameters have one name. -/
  parameterNames : ((d.parameters t).map (·.name)).Nodup
  /-- Defaults convert to the type of their member. -/
  default : ∀ m ∈ d.members, ∀ v, m.binding.default? = some v → ∃ w, t.cast m.type v = .ok w

theorem nodup_of_repeatedNames {seen names : List String} (h : repeatedNames seen names = []) :
    names.Nodup ∧ ∀ name ∈ names, name ∉ seen := by
  induction names generalizing seen with
  | nil => simp
  | cons name rest ih =>
    rw [repeatedNames] at h
    split at h
    · cases h
    · rename_i hseen
      obtain ⟨hnodup, hrest⟩ := ih h
      refine ⟨List.nodup_cons.2 ⟨fun hmem => hrest name hmem (List.mem_cons_self ..), hnodup⟩, ?_⟩
      intro other hother
      rcases List.mem_cons.1 hother with rfl | hother
      · simpa using hseen
      · exact fun hmem => hrest other hother (List.mem_cons_of_mem _ hmem)

theorem isEmpty_of_nameViolation? {name : String} (h : nameViolation? name = none) :
    name.isEmpty = false := by
  by_contra hempty
  rw [Bool.not_eq_false, String.isEmpty_iff] at hempty
  subst hempty
  cases h

namespace TypeTable

variable {t : TypeTable}

theorem nodup_of_parameterViolations {taken : List (String × String)}
    {parameters : List ConstructorParameter} (h : parameterViolations taken parameters = []) :
    (parameters.map (·.name)).Nodup ∧ ∀ p ∈ parameters, p.name ∉ taken.map (·.1) := by
  induction parameters generalizing taken with
  | nil => simp
  | cons p rest ih =>
    rw [parameterViolations] at h
    split at h
    · cases h
    · rename_i hnone
      obtain ⟨hnodup, hrest⟩ := ih h
      refine ⟨List.nodup_cons.2 ⟨?_, hnodup⟩, ?_⟩
      · intro hmem
        obtain ⟨q, hq, heq⟩ := List.mem_map.1 hmem
        exact hrest q hq (by simp [heq])
      · intro q hq
        rcases List.mem_cons.1 hq with rfl | hq
        · rw [List.find?_eq_none] at hnone
          intro hmem
          obtain ⟨entry, hentry, heq⟩ := List.mem_map.1 hmem
          exact hnone entry hentry (by simp [heq])
        · intro hmem
          exact hrest q hq (List.mem_cons_of_mem _ hmem)

/-- A default that is accepted converts. -/
theorem cast_of_bindingViolations {binding : ConstructorBinding} {parameter? : Option String}
    {type : ValueType} {nullable : Bool} (h : t.bindingViolations binding parameter? type nullable = [])
    {v : Value} (hv : binding.default? = some v) : ∃ w, t.cast type v = .ok w := by
  simp only [bindingViolations, List.append_eq_nil_iff, hv] at h
  cases hcast : t.cast type v with
  | ok w => exact ⟨w, rfl⟩
  | error cause =>
    rw [hcast] at h
    obtain ⟨h, -⟩ := h
    split at h <;> simp at h

/-- An accepted descriptor is well-formed. -/
theorem wellformed_of_validate {o : SynthesisOptions} {d : Descriptor}
    (h : t.validate o d = .ok ()) : d.Wellformed t := by
  obtain ⟨hnodes, hcross⟩ := validate_eq_ok_iff.1 h
  have hown : ownViolations d = [] := hnodes (d.name, ownViolations d) (by simp [nodeViolations])
  have hmember : ∀ m ∈ d.members, t.memberViolations m = [] := by
    intro m hm
    refine hnodes (nodeRoute d.name m.name, t.memberViolations m) ?_
    rw [nodeViolations, List.cons_append]
    exact List.mem_cons_of_mem _ (List.mem_append_left _ (List.mem_map_of_mem hm))
  simp only [ownViolations, List.append_eq_nil_iff, List.map_eq_nil_iff,
    Option.toList_eq_nil_iff] at hown
  obtain ⟨⟨⟨hname, -⟩, hnames⟩, -⟩ := hown
  rw [crossViolations, List.append_eq_nil_iff] at hcross
  refine ⟨isEmpty_of_nameViolation? hname, ?_, (nodup_of_repeatedNames hnames).1,
    (nodup_of_parameterViolations hcross.2).1, ?_⟩
  · intro m hm
    have hv := hmember m hm
    simp only [memberViolations, List.append_eq_nil_iff, Option.toList_eq_nil_iff] at hv
    exact isEmpty_of_nameViolation? hv.1.1
  · intro m hm v hdefault
    have hv := hmember m hm
    simp only [memberViolations, List.append_eq_nil_iff] at hv
    exact cast_of_bindingViolations hv.2 hdefault

end TypeTable
end Reshape
