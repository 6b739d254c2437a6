import Reshape.Proofs.Expr.Construction
import Reshape.Proofs.Expr.Discipline

/-!
# Running lambdas

A lambda whose body performs an action performs it on arguments of its types (`Machine.run_compile`), and it
refuses other arguments (`Machine.exists_run_eq_throw`).  What does not look at the store has an outcome of its
own, which is handed on by conversions (`Machine.HasOutcome.convertTo`) and by operators
(`Machine.HasOutcome.binary`).
-/

namespace Reshape

open Action

namespace Machine

variable {m : Machine} {scope : Scope} {s s' : Store} {frame frame' : List Value} {t : TypeTable}

/-! ## Frames -/

theorem run_liftM {α : Type} (a : Action α) (frame : List Value) :
    (liftM a : Evaluation α).run frame = (·, frame) <$> a := by
  rw [← bind_pure_comp]
  rfl

/-- What is handed over when the local bindings are forgotten. -/
theorem perform_run' {α : Type} {x : StateT (List Value) Action α} {a : Action α}
    (h : (x.run frame).perform s = ((·, frame') <$> a).perform s') :
    (x.run' frame).perform s = a.perform s' := by
  rw [StateT.run'_eq, perform_map, h, perform_map]
  rcases a.perform s' with ⟨result, s''⟩
  cases result <;> rfl

/-! ## Arguments -/

theorem checkArguments_eq_ok {types : List ValueType} {args : List Value}
    (h : List.Forall₂ (fun type v => m.types.conforms type v = true) types args) (index : Nat) :
    m.checkArguments index types args = .ok () := by
  induction h generalizing index with
  | nil => rfl
  | cons hv _ ih => rw [checkArguments, if_pos hv, ih]

/-- A lambda whose body performs an action performs it on arguments of its types. -/
theorem run_compile {l : Lambda} {args : List Value}
    (hargs : List.Forall₂ (fun type v => m.types.conforms type v = true) (l.parameters.map (·.type)) args)
    {x : Action Value} (hbody : m.evaluate ⟨args, l.compile.layout⟩ l.body = liftM x) :
    m.run l.compile args = x := by
  have hlength : args.length = l.compile.parameters.length := hargs.length_eq.symm
  have hcheck : m.checkArguments 0 l.compile.parameters args = .ok () := checkArguments_eq_ok hargs 0
  have hrun : (m.evaluate ⟨args, l.compile.layout⟩ l.compile.body).run'
      (List.replicate l.compile.layout.length Value.null) = x := by
    rw [show l.compile.body = l.body from rfl, hbody, StateT.run'_eq, run_liftM, Functor.map_map]
    exact id_map x
  rw [run, if_neg (not_not.2 hlength), hcheck]
  exact hrun

/-- Other arguments are refused. -/
theorem exists_run_eq_throw {l : Lambda} {args : List Value}
    (h : ¬List.Forall₂ (fun type v => m.types.conforms type v = true) (l.parameters.map (·.type)) args) :
    ∃ e, m.run l.compile args = throw e := by
  by_cases hlength : args.length = l.compile.parameters.length
  · cases hcheck : m.checkArguments 0 l.compile.parameters args with
    | ok _ => exact absurd (forall₂_of_checkArguments hcheck hlength) h
    | error e =>
      refine ⟨e, ?_⟩
      rw [run, if_neg (not_not.2 hlength), hcheck]
  · refine ⟨.invocationArity l.compile.parameters.length args.length, ?_⟩
    rw [run, if_pos hlength]
    rfl

end Machine

/-! ## Outcomes without a store -/

namespace Action

variable {α : Type}

theorem perform_ofExcept (r : Except Error α) (s : Store) : perform (ofExcept r) s = (r, s) := by
  cases r <;> rfl

theorem ofCast_eq_ofExcept (r : Except CastError α) : ofCast r = ofExcept (r.mapError .cast) := by
  cases r <;> rfl

end Action

namespace Machine

variable {m : Machine} {scope : Scope} {t : TypeTable} {e e' lhs rhs : Expr} {r r' : Except Error Value}

/-- Evaluating the expression comes to the outcome in every store, and leaves the store and the frame alone. -/
def HasOutcome (m : Machine) (scope : Scope) (e : Expr) (r : Except Error Value) : Prop :=
  m.evaluate scope e = liftM (ofExcept r : Action Value)

theorem hasOutcome_constant (v : Value) (type : ValueType) :
    m.HasOutcome scope (.constant v type) (.ok v) := by
  rw [HasOutcome, evaluate]
  rfl

theorem hasOutcome_parameter {place : Nat} {type : ValueType} {v : Value}
    (h : scope.args[place]? = some v) : m.HasOutcome scope (.parameter place type) (.ok v) := by
  rw [HasOutcome, evaluate, h]
  rfl

/-- An expression has one outcome. -/
theorem HasOutcome.unique (h : m.HasOutcome scope e r) (h' : m.HasOutcome scope e r') : r = r' := by
  have hrun : ∀ {r}, m.HasOutcome scope e r →
      ((m.evaluate scope e).run' []).perform .empty = (r, .empty) := fun {r} h => by
    rw [h]
    cases r <;> rfl
  exact (Prod.ext_iff.1 ((hrun h).symm.trans (hrun h'))).1

/-- What goes on from an outcome without the store has an outcome as well. -/
theorem HasOutcome.bind (h : m.HasOutcome scope e r) {f : Value → Evaluation Value}
    {g : Value → Except Error Value} (hf : ∀ v, r = .ok v → f v = liftM (ofExcept (g v) : Action Value)) :
    m.evaluate scope e >>= f = liftM (ofExcept (r >>= g) : Action Value) := by
  rw [h]
  cases r with
  | error error => rfl
  | ok v => exact hf v rfl

theorem HasOutcome.convert (h : m.HasOutcome scope e r) (rule : ConversionRule) (target : ValueType) :
    m.HasOutcome scope (.convert rule e target)
      (r >>= fun v => (m.types.cast target v).mapError .cast) := by
  rw [HasOutcome, evaluate]
  exact h.bind fun v _ => congrArg liftM (ofCast_eq_ofExcept _)

/-- A conversion casts the outcome, also where a literal is converted at once. -/
theorem HasOutcome.convertTo (ht : t.Extends m.types) (h : m.HasOutcome scope e r)
    (hconf : ∀ v, r = .ok v → m.types.conforms e.type v = true) {kind : ConversionKind} {target : ValueType}
    (he : e.convertTo t kind target = .ok e') :
    m.HasOutcome scope e' (r >>= fun v => (m.types.cast target v).mapError .cast) := by
  obtain ⟨rule, hrule, rfl⟩ := Expr.convertTo_eq_ok he
  unfold Expr.convertBy
  split
  · -- the values of the type are cast to themselves
    have htype := TypeTable.eq_of_classify_identity hrule
    cases r with
    | error error => exact h
    | ok v =>
      have hcast := TypeTable.cast_of_conforms (hconf v rfl)
      rw [htype] at hcast
      rw [bind_eq_ok.2 ⟨v, rfl, by rw [hcast]; rfl⟩]
      exact h
  · split
    · rename_i v type _ _ w hw
      obtain rfl := h.unique (hasOutcome_constant v type)
      rw [bind_eq_ok.2 ⟨v, rfl, by rw [TypeTable.cast_mono ht hw]; rfl⟩]
      exact hasOutcome_constant w target
    · exact h.convert _ target
  · exact h.convert _ target

/-- An operator that is not logical is applied to the outcomes of its operands. -/
theorem HasOutcome.binary {op : Operator} (hop : op.isLogical = false) (hl : m.HasOutcome scope lhs r)
    (hr : m.HasOutcome scope rhs r') {f : Value → Value → Except Error Value}
    (hf : ∀ v w, r = .ok v → r' = .ok w → ∀ s, op.apply s v w = f v w) :
    m.HasOutcome scope (.binary op lhs rhs) (r >>= fun v => r' >>= f v) := by
  rw [HasOutcome, evaluate_strict m scope hop]
  refine hl.bind fun v hv => hr.bind fun w hw => ?_
  unfold operate
  simp only [hf v w hv hw]
  cases f v w <;> rfl

/-- A lambda whose body has an outcome comes to it, and leaves the store alone. -/
theorem perform_run_of_hasOutcome {l : Lambda} {args : List Value}
    (hargs : List.Forall₂ (fun type v => m.types.conforms type v = true) (l.parameters.map (·.type)) args)
    (h : m.HasOutcome ⟨args, l.compile.layout⟩ l.body r) (s : Store) :
    (m.run l.compile args).perform s = (r, s) := by
  rw [run_compile hargs h]
  exact perform_ofExcept r s

end Machine
end Reshape
