import Reshape.Proofs.Expr.Draft
import Reshape.Proofs.Expr.Lexical

/-!
# Numbers of local bindings

Building draws a fresh number for each local binding and uses it once, so no number is bound again
inside its own body, however often parts of an expression are used again (`Expr.Numbered`).  The checked
constructors only move local bindings about (`Draft.Makes.each`), and substitution gives every binding
that it copies a number of its own (`Expr.numbered_substitute`).
-/

namespace Reshape
namespace Expr

/-! ## Nodes and parts -/

theorem sizeOf_lt_of_mem_children {part e : Expr} (h : part ∈ e.children) :
    sizeOf part < sizeOf e := by
  have hlist : ∀ {es : List Expr}, part ∈ es → sizeOf part < sizeOf es := List.sizeOf_lt_of_mem
  have hreceiver : ∀ {receiver : Option Expr}, part ∈ receiver.toList →
      sizeOf part < sizeOf receiver := by
    intro receiver hr
    cases receiver with
    | none => simp at hr
    | some e =>
      simp only [Option.toList_some, List.mem_singleton] at hr
      subst hr
      simp
  cases e with
  | constant | zero | readLocal | parameter => simp [children] at h
  | memberInit object bindings =>
    simp only [children, List.mem_cons, List.mem_map] at h
    simp only [memberInit.sizeOf_spec]
    obtain rfl | ⟨b, hb, rfl⟩ := h
    · omega
    · have hlt := List.sizeOf_lt_of_mem hb
      obtain ⟨target, e⟩ := b
      simp only [Prod.mk.sizeOf_spec] at hlt ⊢
      omega
  | call method receiver es =>
    simp only [children, List.mem_append] at h
    simp only [call.sizeOf_spec]
    rcases h with h | h
    · have hlt := hreceiver h
      omega
    · have hlt := hlist h
      omega
  | fieldGet f receiver =>
    have hlt := hreceiver h
    simp only [fieldGet.sizeOf_spec]
    omega
  | fieldSet f receiver value =>
    simp only [children, List.mem_append, List.mem_singleton] at h
    simp only [fieldSet.sizeOf_spec]
    rcases h with h | rfl
    · have hlt := hreceiver h
      omega
    · omega
  | writePrimitive f receiver value =>
    simp only [children, List.mem_append, List.mem_singleton] at h
    simp only [writePrimitive.sizeOf_spec]
    rcases h with h | rfl
    · have hlt := hreceiver h
      omega
    · omega
  | construct c es =>
    have hmem : part ∈ es := h
    have hlt := hlist hmem
    simp only [construct.sizeOf_spec]
    omega
  | sequence front last =>
    simp only [children, List.mem_append, List.mem_singleton] at h
    simp only [sequence.sizeOf_spec]
    rcases h with h | rfl
    · have hlt := hlist h
      omega
    · omega
  | binary | conditional | convert | index | letIn | navigate | negate =>
    simp only [children, List.mem_cons, List.not_mem_nil, or_false] at h
    simp
    grind

/-- The nodes of an expression are itself and the nodes of its parts. -/
theorem mem_nodes_iff {n e : Expr} : n ∈ e.nodes ↔ n = e ∨ ∃ part ∈ e.children, n ∈ part.nodes := by
  have hreceiver : ∀ receiver : Option Expr,
      n ∈ optionalNodes receiver ↔ ∃ part ∈ receiver.toList, n ∈ part.nodes := by
    intro receiver
    cases receiver <;> simp [optionalNodes]
  cases e with
  | memberInit object bindings =>
    simp only [nodes, children, List.mem_cons, List.mem_append, mem_bindingNodes, exists_eq_or_imp,
      List.mem_map, exists_exists_and_eq_and]
  | _ =>
    simp [nodes, children, mem_nodesOfAll, hreceiver, or_and_right, exists_or]

/-- A node of a node is a node. -/
theorem nodes_subset {n e : Expr} (h : n ∈ e.nodes) : n.nodes ⊆ e.nodes := by
  rcases mem_nodes_iff.1 h with rfl | ⟨part, hpart, hn⟩
  · exact List.Subset.refl _
  · have hlt := sizeOf_lt_of_mem_children hpart
    exact fun x hx => mem_nodes_iff.2 (.inr ⟨part, hpart, nodes_subset hn hx⟩)
termination_by sizeOf e

/-- What holds of every node holds of every node of a part. -/
theorem Each.node {P : Expr → Prop} {n e : Expr} (h : e.Each P) (hn : n ∈ e.nodes) : n.Each P :=
  fun x hx => h x (nodes_subset hn hx)

/-- The node binds or reads the number. -/
def Mentions (id : LocalId) : Expr → Prop
  | letIn other _ _ | readLocal other _ => other = id
  | _ => False

/-- The node has nothing to do with local bindings. -/
def IsPlain : Expr → Prop
  | letIn _ _ _ | readLocal _ _ => False
  | _ => True

/-- The node has nothing to do with local bindings and is no parameter. -/
def IsInner : Expr → Prop
  | letIn _ _ _ | readLocal _ _ | parameter _ _ => False
  | _ => True

theorem IsInner.isPlain {e : Expr} (h : e.IsInner) : e.IsPlain := by
  cases e <;> first | exact trivial | exact h.elim

section Checked

/-! ## Checked constructors

A property that every inner node has holds of each node of what they make, if it holds of each node of
the parts: they bind no number and read none, and refer to no parameter. -/

variable {P : Expr → Prop} (hP : ∀ n : Expr, n.IsInner → P n) {t : TypeTable}
include hP

/-- An inner node with parts. -/
theorem each_of_children {e : Expr} (he : e.IsInner) (h : ∀ part ∈ e.children, part.Each P) :
    e.Each P := by
  intro n hn
  rcases mem_nodes_iff.1 hn with rfl | ⟨part, hpart, hn⟩
  · exact hP n he
  · exact h part hpart n hn

theorem each_leaf {e : Expr} (he : e.IsInner) (h : e.children = []) : e.Each P :=
  each_of_children hP he (by simp [h])

theorem each_convertBy {rule : ConversionRule} {e : Expr} (h : e.Each P) (target : ValueType) :
    (convertBy t rule e target).Each P := by
  have hconvert : ∀ rule, (convert rule e target).Each P := fun rule =>
    each_of_children hP trivial (by simpa [children] using h)
  unfold convertBy
  split
  · exact h
  · split
    · exact each_leaf hP trivial rfl
    · exact hconvert _
  · exact hconvert _

theorem each_convertTo {e e' : Expr} {kind : ConversionKind} {target : ValueType} (h : e.Each P)
    (he : e.convertTo t kind target = .ok e') : e'.Each P := by
  obtain ⟨rule, -, rfl⟩ := convertTo_eq_ok he
  exact each_convertBy hP h target

theorem each_coerce {e e' : Expr} {target : ValueType} (h : e.Each P)
    (he : e.coerce t target = .ok e') : e'.Each P :=
  each_convertTo hP h he

theorem each_typedLiteral {v : Value} {type : ValueType} {e : Expr}
    (h : typedLiteral t v type = .ok e) : e.Each P := by
  obtain ⟨w, -, h⟩ := bind_eq_ok.1 h
  cases h
  exact each_leaf hP trivial rfl

theorem each_upcastReceiver {receiver e : Expr} {owner : TypeId} {member : String}
    (hr : receiver.Each P) (h : upcastReceiver t receiver owner member = .ok e) : e.Each P := by
  obtain ⟨rule, -, rfl⟩ := upcastReceiver_eq_ok h
  exact each_convertBy hP hr _

theorem each_bindReceiver {receiver bound : Option Expr} {owner : TypeId} {isStatic : Bool}
    {member : String} (hr : ∀ e ∈ receiver.toList, e.Each P)
    (h : bindReceiver t receiver owner isStatic member = .ok bound) :
    ∀ e ∈ bound.toList, e.Each P := by
  unfold bindReceiver at h
  split at h
  · cases h
    simp
  · cases h
  · cases h
  · rename_i e
    obtain ⟨e', he', rfl⟩ := map_eq_ok.1 h
    have he := each_upcastReceiver hP (hr e (by simp)) he'
    simpa using he

theorem each_bindArguments {callee : String} {parameters : List Parameter} {args es : List Expr}
    (ha : ∀ e ∈ args, e.Each P) (h : bindArguments t parameters args callee = .ok es) :
    ∀ e ∈ es, e.Each P := by
  intro e he
  obtain ⟨p, -, ⟨a, hmem, hconverted⟩ | ⟨v, hliteral⟩⟩ := exists_of_mem_forall₂ (forall₂_bindArguments h) he
  · exact each_coerce hP (ha a hmem) hconverted
  · exact each_typedLiteral hP hliteral

theorem each_bindMember {object : TypeId} {target : AssignTarget} {value : Expr}
    {bound : AssignTarget × Expr} (hv : value.Each P)
    (h : bindMember t object target value = .ok bound) : bound.2.Each P := by
  obtain ⟨⟨owner, memberType, name⟩, -, h⟩ := bind_eq_ok.1 h
  simp only at h
  split at h
  · cases h
  · obtain ⟨e, he, h⟩ := bind_eq_ok.1 h
    cases h
    exact each_coerce hP hv he

end Checked

end Expr

open Expr in
/-- A checked constructor makes an expression of new plain nodes and nodes of the draft. -/
theorem Draft.Makes.each {P : Expr → Prop} (hP : ∀ n : Expr, n.IsPlain → P n) {d : Draft} {e : Expr}
    (h : d.Makes e) (hd : ∀ e ∈ d.built, e.Each P) : e.Each P := by
  have hinner : ∀ n : Expr, n.IsInner → P n := fun n hn => hP n hn.isPlain
  cases h with
  | literal hv => exact each_leaf hinner trivial rfl
  | typedLiteral h => exact each_typedLiteral hinner h
  | zero type => exact each_leaf hinner trivial rfl
  | parameter place type => exact each_parameter.2 (hP _ trivial)
  | convertTo ho h => exact each_convertTo hinner (hd _ ho) h
  | binary hl hr h =>
    obtain ⟨operand, lhs', rhs', -, hlhs, hrhs, rfl⟩ := mkBinary_eq_ok.1 h
    refine each_of_children hinner trivial ?_
    simpa [children] using ⟨each_coerce hinner (hd _ hl) hlhs, each_coerce hinner (hd _ hr) hrhs⟩
  | negate ho h =>
    obtain ⟨_, -, h⟩ := bind_eq_ok.1 h
    cases h
    exact each_of_children hinner trivial (by simpa [children] using hd _ ho)
  | conditional ht h₁ h₂ h =>
    obtain ⟨_, -, h⟩ := bind_eq_ok.1 h
    split at h
    · cases h
    · obtain ⟨a, ha, h⟩ := bind_eq_ok.1 h
      obtain ⟨b, hb, h⟩ := bind_eq_ok.1 h
      cases h
      refine each_of_children hinner trivial ?_
      simpa [children] using
        ⟨hd _ ht, each_coerce hinner (hd _ h₁) ha, each_coerce hinner (hd _ h₂) hb⟩
  | sequence hes h =>
    unfold mkSequence at h
    split at h
    · rename_i last hlast
      cases h
      refine each_of_children hinner trivial fun e he => ?_
      rcases List.mem_append.1 he with he | he
      · exact hd e (hes (List.mem_of_mem_dropLast he))
      · rw [List.mem_singleton.1 he]
        exact hd last (hes (List.mem_of_getLast? hlast))
    · cases h
  | index hl h =>
    unfold mkIndex at h
    split at h
    · cases h
      exact each_of_children hinner trivial (by simpa [children] using hd _ hl)
    · cases h
  | fieldGet hr hf h =>
    obtain ⟨bound, hbound, h⟩ := bind_eq_ok.1 h
    cases h
    exact each_of_children hinner trivial (each_bindReceiver hinner (fun e he => hd e (hr he)) hbound)
  | fieldSet hr hf hv h =>
    unfold mkFieldSet at h
    split at h
    · cases h
    · obtain ⟨bound, hbound, h⟩ := bind_eq_ok.1 h
      obtain ⟨w, hw, h⟩ := bind_eq_ok.1 h
      cases h
      refine each_of_children hinner trivial (List.forall_mem_append.2 ⟨?_, ?_⟩)
      · exact each_bindReceiver hinner (fun e he => hd e (hr he)) hbound
      · simpa using each_coerce hinner (hd _ hv) hw
  | writePrimitive hr hf hv h =>
    obtain ⟨bound, hbound, h⟩ := bind_eq_ok.1 h
    obtain ⟨w, hw, h⟩ := bind_eq_ok.1 h
    cases h
    refine each_of_children hinner trivial (List.forall_mem_append.2 ⟨?_, ?_⟩)
    · exact each_bindReceiver hinner (fun e he => hd e (hr he)) hbound
    · simpa using each_coerce hinner (hd _ hv) hw
  | call hr hm ha h =>
    obtain ⟨bound, hbound, h⟩ := bind_eq_ok.1 h
    obtain ⟨es, hes, h⟩ := bind_eq_ok.1 h
    cases h
    refine each_of_children hinner trivial (List.forall_mem_append.2 ⟨?_, ?_⟩)
    · exact each_bindReceiver hinner (fun e he => hd e (hr he)) hbound
    · exact each_bindArguments hinner (fun e he => hd e (ha he)) hes
  | construct hc ha h =>
    obtain ⟨es, hes, h⟩ := bind_eq_ok.1 h
    cases h
    exact each_of_children hinner trivial (each_bindArguments hinner (fun e he => hd e (ha he)) hes)
  | navigate hr hm h =>
    obtain ⟨-, -, bound, hbound, rfl⟩ := mkNavigate_eq_ok h
    have hreceiver := each_upcastReceiver hinner (hd _ hr) hbound
    exact each_of_children hinner trivial (by simpa [children] using hreceiver)
  | memberInit ho ht hv h =>
    unfold mkMemberInit at h
    split at h
    · obtain ⟨bound, hbound, h⟩ := bind_eq_ok.1 h
      cases h
      refine each_of_children hinner trivial (List.forall_mem_cons.2 ⟨hd _ ho, fun e he => ?_⟩)
      obtain ⟨b, hb, rfl⟩ := List.mem_map.1 he
      obtain ⟨b₀, hb₀, heq⟩ := exists_of_mem_forall₂ (mapM_eq_ok.1 hbound) hb
      exact each_bindMember hinner (hd _ (hv (List.mem_map.2 ⟨b₀, hb₀, rfl⟩))) heq
    · cases h

namespace Expr

/-! ## Numbering -/

/-- Numbers are below the next one, are not bound again inside their own bodies, and those in scope
outside are not bound. -/
structure Numbered (next : LocalId) (bound : List LocalId) (e : Expr) : Prop where
  /-- Numbers that were drawn are below the next one. -/
  below : ∀ id, e.Mentions id → id < next
  /-- A number is bound once on every path. -/
  bindsOnce : e.BindsOnce
  /-- What is in scope outside is not bound. -/
  free : ∀ id ∈ bound, ¬e.Binds id

section Numbered

variable {next next' id : LocalId} {bound bound' layout : List LocalId} {e : Expr}

theorem Numbered.of_isPlain (h : e.IsPlain) : e.Numbered next bound := by
  cases e <;> first | exact ⟨fun _ h => h.elim, trivial, fun _ _ h => h⟩ | exact h.elim

theorem mentions_of_binds (h : e.Binds id) : e.Mentions id := by
  cases e <;> first | exact h | exact h.elim

/-- Later, with one of the numbers that were drawn since in scope. -/
theorem Numbered.cons (h : e.Numbered next bound) (hnext : next ≤ next') (hid : next ≤ id) :
    e.Numbered next' (id :: bound) := by
  refine ⟨fun other hother => Nat.lt_of_lt_of_le (h.below other hother) hnext, h.bindsOnce, ?_⟩
  refine List.forall_mem_cons.2 ⟨fun hbinds => ?_, h.free⟩
  exact absurd (h.below id (mentions_of_binds hbinds)) (Nat.not_lt.2 hid)

theorem Numbered.mono (h : e.Numbered next bound) (hnext : next ≤ next') (hbound : bound' ⊆ bound) :
    e.Numbered next' bound' :=
  ⟨fun other hother => Nat.lt_of_lt_of_le (h.below other hother) hnext, h.bindsOnce,
    fun id hid => h.free id (hbound hid)⟩

/-- With slots for what it binds, a numbered expression can be evaluated over a frame. -/
theorem Numbered.placed (h : e.Numbered next bound) (hslot : e.HasSlot layout) :
    e.Placed layout bound :=
  ⟨hslot, h.bindsOnce, h.free⟩

end Numbered

/-! ## Substitution -/

theorem Renaming.apply_lt {r : Renaming} {next id : LocalId} (hr : ∀ p ∈ r, p.2 < next)
    (hid : id < next) : r.apply id < next := by
  unfold Renaming.apply
  split
  · rename_i source renamed hfind
    exact hr _ (List.mem_of_find?_eq_some hfind)
  · exact hid

/-- The numbers that an expression mentions were drawn. -/
def Below (next : LocalId) (e : Expr) : Prop :=
  e.Each fun n => ∀ id, n.Mentions id → id < next

/-- What substitution starts from: numbered arguments, and numbers that were drawn for what is in scope
outside and for what the renaming puts in place of bindings. -/
structure Supplied (args : List Expr) (r : Renaming) (bound : List LocalId) (next : LocalId) : Prop where
  /-- Arguments are numbered. -/
  args : ∀ e ∈ args, e.Each (Numbered next bound)
  /-- What is in scope outside was drawn. -/
  bound : ∀ id ∈ bound, id < next
  /-- New numbers were drawn. -/
  renamed : ∀ p ∈ r, p.2 < next

section Substitution

variable {t : TypeTable} {args : List Expr} {r : Renaming} {bound : List LocalId} {c c' : Context}

theorem Below.later {e : Expr} (h : e.Below c.next) (hc : c.Extends c') : e.Below c'.next :=
  h.imp fun _ hn id hid => Nat.lt_of_lt_of_le (hn id hid) hc.next_le

theorem Numbered.later {e : Expr} (h : e.Each (Numbered c.next bound)) (hc : c.Extends c') :
    e.Each (Numbered c'.next bound) :=
  h.imp fun _ hn => hn.mono hc.next_le (List.Subset.refl _)

theorem Supplied.later (h : Supplied args r bound c.next) (hc : c.Extends c') :
    Supplied args r bound c'.next :=
  ⟨fun e he => Numbered.later (h.args e he) hc,
    fun id hid => Nat.lt_of_lt_of_le (h.bound id hid) hc.next_le,
    fun p hp => Nat.lt_of_lt_of_le (h.renamed p hp) hc.next_le⟩

/-- Inside a binding that is copied, its new number is in scope. -/
theorem Supplied.bind (h : Supplied args r bound c.next) (id : LocalId)
    (hc : c'.next = c.next + 1) :
    Supplied args ((id, c.next) :: r) (c.next :: bound) c'.next := by
  have hlt : c.next < c'.next := hc ▸ Nat.lt_succ_self _
  refine ⟨fun e he => (h.args e he).imp fun _ hn => hn.cons (Nat.le_of_lt hlt) (Nat.le_refl _), ?_, ?_⟩
  · exact List.forall_mem_cons.2 ⟨hlt, fun id hid => Nat.lt_trans (h.bound id hid) hlt⟩
  · exact List.forall_mem_cons.2 ⟨hlt, fun p hp => Nat.lt_trans (h.renamed p hp) hlt⟩

/-- The number that is drawn is the next one. -/
theorem yields_fresh : Build.Yields c Build.fresh fun id c' => id = c.next ∧ c'.next = c.next + 1 := by
  intro id n hrun
  cases hrun
  exact ⟨c.bind .any, c.extends_bind .any, rfl, rfl, rfl⟩

mutual

/-- What substitution yields is numbered: every binding that it copies gets a fresh number. -/
theorem numbered_substitute {c : Context} {r : Renaming} {bound : List LocalId}
    (hs : Supplied args r bound c.next) : (e : Expr) → e.Below c.next →
      Build.Yields c (substitute t args r e) fun e' c' => e'.Each (Numbered c'.next bound)
  | binary op lhs rhs, he => by
    obtain ⟨-, hlhs, hrhs⟩ := each_binary.1 he
    rw [substitute]
    refine (numbered_substitute hs lhs hlhs).bind fun lhs' c₁ h₁ hl => ?_
    refine (numbered_substitute (hs.later h₁) rhs (Below.later hrhs h₁)).bind
      fun rhs' c₂ h₂ hr => .pure ?_
    exact each_binary.2 ⟨.of_isPlain trivial, Numbered.later hl h₂, hr⟩
  | call method receiver es, he => by
    obtain ⟨-, hrec, hes⟩ := each_call.1 he
    rw [substitute]
    refine (numbered_substituteReceiver hs receiver hrec).bind fun receiver' c₁ h₁ hrec' => ?_
    refine (numbered_substituteAll (hs.later h₁) es fun e he => Below.later (hes e he) h₁).bind
      fun es' c₂ h₂ hes' => .pure ?_
    exact each_call.2 ⟨.of_isPlain trivial, fun e he => Numbered.later (hrec' e he) h₂, hes'⟩
  | conditional test thenExpr otherwise, he => by
    obtain ⟨-, htest, hthen, hotherwise⟩ := each_conditional.1 he
    rw [substitute]
    refine (numbered_substitute hs test htest).bind fun test' c₁ h₁ ht => ?_
    refine (numbered_substitute (hs.later h₁) thenExpr (Below.later hthen h₁)).bind
      fun then' c₂ h₂ hth => ?_
    have h₁₂ := h₁.trans h₂
    refine (numbered_substitute (hs.later h₁₂) otherwise (Below.later hotherwise h₁₂)).bind
      fun otherwise' c₃ h₃ ho => .pure ?_
    exact each_conditional.2 ⟨.of_isPlain trivial, Numbered.later ht (h₂.trans h₃),
      Numbered.later hth h₃, ho⟩
  | constant v type, he => by
    rw [substitute]
    exact .pure (each_constant.2 (.of_isPlain trivial))
  | convert rule operand type, he => by
    obtain ⟨-, hoperand⟩ := each_convert.1 he
    rw [substitute]
    refine (numbered_substitute hs operand hoperand).bind fun operand' c₁ h₁ ho => .pure ?_
    exact each_convert.2 ⟨.of_isPlain trivial, ho⟩
  | zero type, he => by
    rw [substitute]
    exact .pure (each_zero.2 (.of_isPlain trivial))
  | fieldGet f receiver, he => by
    obtain ⟨-, hrec⟩ := each_fieldGet.1 he
    rw [substitute]
    refine (numbered_substituteReceiver hs receiver hrec).bind fun receiver' c₁ h₁ hrec' => .pure ?_
    exact each_fieldGet.2 ⟨.of_isPlain trivial, hrec'⟩
  | fieldSet f receiver value, he => by
    obtain ⟨-, hrec, hvalue⟩ := each_fieldSet.1 he
    rw [substitute]
    refine (numbered_substituteReceiver hs receiver hrec).bind fun receiver' c₁ h₁ hrec' => ?_
    refine (numbered_substitute (hs.later h₁) value (Below.later hvalue h₁)).bind
      fun value' c₂ h₂ hv => .pure ?_
    exact each_fieldSet.2 ⟨.of_isPlain trivial, fun e he => Numbered.later (hrec' e he) h₂, hv⟩
  | index list position, he => by
    obtain ⟨-, hlist⟩ := each_index.1 he
    rw [substitute]
    refine (numbered_substitute hs list hlist).bind fun list' c₁ h₁ hl => .pure ?_
    exact each_index.2 ⟨.of_isPlain trivial, hl⟩
  | letIn id value body, he => by
    obtain ⟨-, hvalue, hbody⟩ := each_letIn.1 he
    rw [substitute]
    refine (numbered_substitute hs value hvalue).bind fun value' c₁ h₁ hv => ?_
    refine yields_fresh.bind fun renamed c₂ h₂ hrenamed => ?_
    obtain ⟨rfl, hnext⟩ := hrenamed
    -- the fresh number is in scope in the copy of the body, so nothing there binds it
    refine (numbered_substitute ((hs.later h₁).bind id hnext) body
      (Below.later hbody (h₁.trans h₂))).bind fun body' c₃ h₃ hb => .pure ?_
    have hlt : c₁.next < c₃.next := Nat.lt_of_lt_of_le (hnext ▸ Nat.lt_succ_self _) h₃.next_le
    refine each_letIn.2 ⟨⟨?_, ?_, ?_⟩, Numbered.later hv (h₂.trans h₃), ?_⟩
    · rintro other rfl
      exact hlt
    · exact fun n hn => (hb n hn).free _ (List.mem_cons_self ..)
    · rintro other hother rfl
      exact absurd ((hs.later h₁).bound _ hother) (Nat.lt_irrefl _)
    · exact hb.imp fun _ hn => hn.mono (Nat.le_refl _) (List.subset_cons_self ..)
  | readLocal id type, he => by
    rw [substitute]
    refine .pure (each_readLocal.2 ⟨?_, trivial, fun _ _ h => h⟩)
    rintro other rfl
    exact Renaming.apply_lt hs.renamed (each_readLocal.1 he id rfl)
  | memberInit object bindings, he => by
    obtain ⟨-, hobject, hbindings⟩ := each_memberInit.1 he
    rw [substitute]
    refine (numbered_substitute hs object hobject).bind fun object' c₁ h₁ ho => ?_
    refine (numbered_substituteBindings (hs.later h₁) bindings
      fun b hb => Below.later (hbindings b hb) h₁).bind fun bindings' c₂ h₂ hb => .pure ?_
    exact each_memberInit.2 ⟨.of_isPlain trivial, Numbered.later ho h₂, hb⟩
  | navigate receiver m, he => by
    obtain ⟨-, hrec⟩ := each_navigate.1 he
    rw [substitute]
    refine (numbered_substitute hs receiver hrec).bind fun receiver' c₁ h₁ hr => .pure ?_
    exact each_navigate.2 ⟨.of_isPlain trivial, hr⟩
  | construct ctor es, he => by
    obtain ⟨-, hes⟩ := each_construct.1 he
    rw [substitute]
    refine (numbered_substituteAll hs es hes).bind fun es' c₁ h₁ hes' => .pure ?_
    exact each_construct.2 ⟨.of_isPlain trivial, hes'⟩
  | negate operand, he => by
    obtain ⟨-, hoperand⟩ := each_negate.1 he
    rw [substitute]
    refine (numbered_substitute hs operand hoperand).bind fun operand' c₁ h₁ ho => .pure ?_
    exact each_negate.2 ⟨.of_isPlain trivial, ho⟩
  | parameter place type, he => by
    rw [substitute]
    split
    · rename_i arg harg
      refine .ofExcept fun e h => each_coerce (fun _ hn => .of_isPlain hn.isPlain) ?_ h
      exact hs.args arg (List.mem_of_getElem? harg)
    · exact .throw
  | sequence front last, he => by
    obtain ⟨-, hfront, hlast⟩ := each_sequence.1 he
    rw [substitute]
    refine (numbered_substituteAll hs front hfront).bind fun front' c₁ h₁ hf => ?_
    refine (numbered_substitute (hs.later h₁) last (Below.later hlast h₁)).bind
      fun last' c₂ h₂ hl => .pure ?_
    exact each_sequence.2 ⟨.of_isPlain trivial, fun e he => Numbered.later (hf e he) h₂, hl⟩
  | writePrimitive f receiver value, he => by
    obtain ⟨-, hrec, hvalue⟩ := each_writePrimitive.1 he
    rw [substitute]
    refine (numbered_substituteReceiver hs receiver hrec).bind fun receiver' c₁ h₁ hrec' => ?_
    refine (numbered_substitute (hs.later h₁) value (Below.later hvalue h₁)).bind
      fun value' c₂ h₂ hv => .pure ?_
    exact each_writePrimitive.2 ⟨.of_isPlain trivial, fun e he => Numbered.later (hrec' e he) h₂, hv⟩

theorem numbered_substituteAll {c : Context} {r : Renaming} {bound : List LocalId}
    (hs : Supplied args r bound c.next) : (es : List Expr) → (∀ e ∈ es, e.Below c.next) →
      Build.Yields c (substituteAll t args r es) fun es' c' =>
        ∀ e ∈ es', e.Each (Numbered c'.next bound)
  | [], _ => by
    rw [substituteAll]
    exact .pure (by simp)
  | e :: es, hes => by
    rw [substituteAll]
    refine (numbered_substitute hs e (hes e (List.mem_cons_self ..))).bind fun e' c₁ h₁ he => ?_
    refine (numbered_substituteAll (hs.later h₁) es fun e he =>
      Below.later (hes e (List.mem_cons_of_mem _ he)) h₁).bind fun es' c₂ h₂ hes' => .pure ?_
    exact List.forall_mem_cons.2 ⟨Numbered.later he h₂, hes'⟩

theorem numbered_substituteReceiver {c : Context} {r : Renaming} {bound : List LocalId}
    (hs : Supplied args r bound c.next) : (receiver : Option Expr) →
      (∀ e, receiver = some e → e.Below c.next) →
      Build.Yields c (substituteReceiver t args r receiver) fun receiver' c' =>
        ∀ e, receiver' = some e → e.Each (Numbered c'.next bound)
  | none, _ => by
    rw [substituteReceiver]
    exact .pure (by simp)
  | some e, hrec => by
    rw [substituteReceiver]
    refine (numbered_substitute hs e (hrec e rfl)).bind fun e' c₁ h₁ he => .pure ?_
    rintro _ ⟨⟩
    exact he

theorem numbered_substituteBindings {c : Context} {r : Renaming} {bound : List LocalId}
    (hs : Supplied args r bound c.next) : (bindings : List (AssignTarget × Expr)) →
      (∀ b ∈ bindings, b.2.Below c.next) →
      Build.Yields c (substituteBindings t args r bindings) fun bindings' c' =>
        ∀ b ∈ bindings', b.2.Each (Numbered c'.next bound)
  | [], _ => by
    rw [substituteBindings]
    exact .pure (by simp)
  | (target, e) :: bindings, hb => by
    rw [substituteBindings]
    refine (numbered_substitute hs e (hb _ (List.mem_cons_self ..))).bind fun e' c₁ h₁ he => ?_
    refine (numbered_substituteBindings (hs.later h₁) bindings fun b hb' =>
      Below.later (hb b (List.mem_cons_of_mem _ hb')) h₁).bind fun bindings' c₂ h₂ hbs => .pure ?_
    exact List.forall_mem_cons.2 ⟨Numbered.later he h₂, hbs⟩

end

end Substitution

end Expr
end Reshape
