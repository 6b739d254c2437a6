import Reshape.Proofs.Expr.Scoping

/-!
# Parameters in what is built

Substitution leaves no parameter of its own: the parameters of what it makes are those of the arguments
(`Expr.each_substitute`).  So a body with arguments in place of its parameters refers to what the arguments
refer to, whatever the body referred to before (`Expr.each_rebind`, `Lambda.each_apply`).
-/

namespace Reshape
namespace Expr

/-- The node is a parameter. -/
def IsParameter : Expr → Prop
  | parameter _ _ => True
  | _ => False

theorem IsInner.not_isParameter {e : Expr} (h : e.IsInner) : ¬e.IsParameter := by
  cases e <;> first | exact id | exact h.elim

variable {P : Expr → Prop} {t : TypeTable} {args : List Expr}

/-- The arguments settle a property of nodes: only parameters can lack it, and those in the arguments do
not. -/
structure Settled (P : Expr → Prop) (args : List Expr) : Prop where
  /-- Other nodes have it. -/
  other : ∀ n : Expr, ¬n.IsParameter → P n
  /-- Each node of the arguments has it. -/
  args : ∀ e ∈ args, e.Each P

mutual

/-- Each node of what substitution makes has a property that the arguments settle. -/
theorem each_substitute (hs : Settled P args) {c : Context} {r : Renaming} : (e : Expr) →
    Build.Yields c (substitute t args r e) fun e' _ => e'.Each P
  | binary op lhs rhs => by
    rw [substitute]
    refine (each_substitute hs lhs).bind fun lhs' _ _ hl => ?_
    refine (each_substitute hs rhs).bind fun rhs' _ _ hr => .pure ?_
    exact each_binary.2 ⟨hs.other _ id, hl, hr⟩
  | call method receiver es => by
    rw [substitute]
    refine (each_substituteReceiver hs receiver).bind fun receiver' _ _ hreceiver => ?_
    refine (each_substituteAll hs es).bind fun es' _ _ hes => .pure ?_
    exact each_call.2 ⟨hs.other _ id, hreceiver, hes⟩
  | conditional test thenExpr otherwise => by
    rw [substitute]
    refine (each_substitute hs test).bind fun test' _ _ htest => ?_
    refine (each_substitute hs thenExpr).bind fun then' _ _ hthen => ?_
    refine (each_substitute hs otherwise).bind fun otherwise' _ _ hotherwise => .pure ?_
    exact each_conditional.2 ⟨hs.other _ id, htest, hthen, hotherwise⟩
  | constant v type => by
    rw [substitute]
    exact .pure (each_constant.2 (hs.other _ id))
  | convert rule operand type => by
    rw [substitute]
    refine (each_substitute hs operand).bind fun operand' _ _ hoperand => .pure ?_
    exact each_convert.2 ⟨hs.other _ id, hoperand⟩
  | zero type => by
    rw [substitute]
    exact .pure (each_zero.2 (hs.other _ id))
  | fieldGet f receiver => by
    rw [substitute]
    refine (each_substituteReceiver hs receiver).bind fun receiver' _ _ hreceiver => .pure ?_
    exact each_fieldGet.2 ⟨hs.other _ id, hreceiver⟩
  | fieldSet f receiver value => by
    rw [substitute]
    refine (each_substituteReceiver hs receiver).bind fun receiver' _ _ hreceiver => ?_
    refine (each_substitute hs value).bind fun value' _ _ hvalue => .pure ?_
    exact each_fieldSet.2 ⟨hs.other _ id, hreceiver, hvalue⟩
  | index list position => by
    rw [substitute]
    refine (each_substitute hs list).bind fun list' _ _ hlist => .pure ?_
    exact each_index.2 ⟨hs.other _ id, hlist⟩
  | letIn id value body => by
    rw [substitute]
    refine (each_substitute hs value).bind fun value' _ _ hvalue => ?_
    refine (Build.Yields.fresh value.type).bind fun renamed _ _ _ => ?_
    refine (each_substitute hs body).bind fun body' _ _ hbody => .pure ?_
    exact each_letIn.2 ⟨hs.other _ fun h => h, hvalue, hbody⟩
  | readLocal id type => by
    rw [substitute]
    exact .pure (each_readLocal.2 (hs.other _ fun h => h))
  | memberInit object bindings => by
    rw [substitute]
    refine (each_substitute hs object).bind fun object' _ _ hobject => ?_
    refine (each_substituteBindings hs bindings).bind fun bindings' _ _ hbindings => .pure ?_
    exact each_memberInit.2 ⟨hs.other _ id, hobject, hbindings⟩
  | navigate receiver m => by
    rw [substitute]
    refine (each_substitute hs receiver).bind fun receiver' _ _ hreceiver => .pure ?_
    exact each_navigate.2 ⟨hs.other _ id, hreceiver⟩
  | construct ctor es => by
    rw [substitute]
    refine (each_substituteAll hs es).bind fun es' _ _ hes => .pure ?_
    exact each_construct.2 ⟨hs.other _ id, hes⟩
  | negate operand => by
    rw [substitute]
    refine (each_substitute hs operand).bind fun operand' _ _ hoperand => .pure ?_
    exact each_negate.2 ⟨hs.other _ id, hoperand⟩
  | parameter place type => by
    rw [substitute]
    split
    · rename_i arg harg
      refine .ofExcept fun e h => each_coerce (fun n hn => hs.other n hn.not_isParameter) ?_ h
      exact hs.args arg (List.mem_of_getElem? harg)
    · exact .throw
  | sequence front last => by
    rw [substitute]
    refine (each_substituteAll hs front).bind fun front' _ _ hfront => ?_
    refine (each_substitute hs last).bind fun last' _ _ hlast => .pure ?_
    exact each_sequence.2 ⟨hs.other _ id, hfront, hlast⟩
  | writePrimitive f receiver value => by
    rw [substitute]
    refine (each_substituteReceiver hs receiver).bind fun receiver' _ _ hreceiver => ?_
    refine (each_substitute hs value).bind fun value' _ _ hvalue => .pure ?_
    exact each_writePrimitive.2 ⟨hs.other _ id, hreceiver, hvalue⟩

theorem each_substituteAll (hs : Settled P args) {c : Context} {r : Renaming} : (es : List Expr) →
    Build.Yields c (substituteAll t args r es) fun es' _ => ∀ e ∈ es', e.Each P
  | [] => by
    rw [substituteAll]
    exact .pure (by simp)
  | e :: es => by
    rw [substituteAll]
    refine (each_substitute hs e).bind fun e' _ _ he => ?_
    refine (each_substituteAll hs es).bind fun es' _ _ hes => .pure ?_
    exact List.forall_mem_cons.2 ⟨he, hes⟩

theorem each_substituteReceiver (hs : Settled P args) {c : Context} {r : Renaming} :
    (receiver : Option Expr) →
      Build.Yields c (substituteReceiver t args r receiver) fun receiver' _ =>
        ∀ e, receiver' = some e → e.Each P
  | none => by
    rw [substituteReceiver]
    exact .pure (by simp)
  | some e => by
    rw [substituteReceiver]
    refine (each_substitute hs e).bind fun e' _ _ he => .pure ?_
    rintro _ ⟨⟩
    exact he

theorem each_substituteBindings (hs : Settled P args) {c : Context} {r : Renaming} :
    (bindings : List (AssignTarget × Expr)) →
      Build.Yields c (substituteBindings t args r bindings) fun bindings' _ =>
        ∀ b ∈ bindings', b.2.Each P
  | [] => by
    rw [substituteBindings]
    exact .pure (by simp)
  | (target, e) :: bindings => by
    rw [substituteBindings]
    refine (each_substitute hs e).bind fun e' _ _ he => ?_
    refine (each_substituteBindings hs bindings).bind fun bindings' _ _ hbindings => .pure ?_
    exact List.forall_mem_cons.2 ⟨he, hbindings⟩

end

theorem each_rebind (hs : Settled P args) {e e' : Expr} {n n' : LocalId}
    (h : (e.rebind t args).run.run n = (.ok e', n')) : e'.Each P := by
  obtain ⟨_, -, -, he⟩ := each_substitute hs (c := ⟨fun _ => .any, n⟩) e e' n' h
  exact he

end Expr

/-- The same goes for the body of a lambda that is applied to the arguments. -/
theorem Lambda.each_apply {P : Expr → Prop} {t : TypeTable} {l : Lambda} {args : List Expr}
    (hs : Expr.Settled P args) {e : Expr} {n n' : LocalId}
    (h : (l.apply t args).run.run n = (.ok e, n')) : e.Each P := by
  obtain ⟨-, es, hes, h⟩ := apply_eq_ok h
  have hargs := each_coerceAll (fun n hn => hs.other n hn.not_isParameter) hs.args hes
  exact Expr.each_rebind ⟨hs.other, hargs⟩ h

end Reshape
