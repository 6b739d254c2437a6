import Reshape.Proofs.Projection.Mapping
import Reshape.Proofs.Store.Writes

/-!
# Expressions that leave objects alone

An action is quiet from a store on if it changes no object of any larger store that it succeeds in; it may
make new ones (`Action.Quiet`).  Evaluation is quiet if it is in every frame.  What is bound to a quiet
source stays quiet through the value map and the conversions that finish it (`Machine.Quiet.finish`).
-/

namespace Reshape

/-! ## Actions -/

namespace Action

variable {α β : Type} {s : Store}

/-- In every larger store in which the action succeeds, all objects are afterwards as they were. -/
def Quiet (s : Store) (a : Action α) : Prop :=
  ∀ s₁, s.Includes s₁ → ∀ v s₂, a.perform s₁ = (.ok v, s₂) → s₁.Includes s₂

theorem Quiet.pure (v : α) : Quiet s (pure v) := by
  rintro s₁ - _ _ ⟨⟩
  exact .refl s₁

theorem Quiet.throw (e : Error) : Quiet s (MonadExcept.throw e : Action α) := by
  rintro s₁ - _ _ ⟨⟩

theorem Quiet.bind {a : Action α} {f : α → Action β} (ha : Quiet s a) (hf : ∀ v, Quiet s (f v)) :
    Quiet s (a >>= f) := by
  intro s₁ hs v s₃ h
  obtain ⟨u, s₂, hu, hv⟩ := run_bind_eq_ok.1 h
  have hstep := ha s₁ hs u s₂ hu
  exact hstep.trans (hf u s₂ (hs.trans hstep) v s₃ hv)

theorem quiet_get : Quiet s (get : Action Store) := by
  rintro s₁ - _ _ ⟨⟩
  exact .refl s₁

theorem quiet_ofCast (r : Except CastError α) : Quiet s (Action.ofCast r) := by
  cases r with
  | ok v => exact .pure v
  | error e => exact .throw _

end Action

/-! ## Evaluations -/

namespace Evaluation

variable {α β : Type} {s : Store}

/-- Evaluation is quiet in every frame. -/
def Quiet (s : Store) (x : Evaluation α) : Prop :=
  ∀ frame, Action.Quiet s (x.run frame)

theorem Quiet.pure (v : α) : Quiet s (pure v) :=
  fun frame => Action.Quiet.pure (v, frame)

theorem Quiet.throw (e : Error) : Quiet s (MonadExcept.throw e : Evaluation α) := by
  rintro frame s₁ - _ _ ⟨⟩

theorem Quiet.bind {x : Evaluation α} {f : α → Evaluation β} (hx : Quiet s x)
    (hf : ∀ v, Quiet s (f v)) : Quiet s (x >>= f) := by
  intro frame
  rw [StateT.run_bind]
  exact (hx frame).bind fun ⟨v, frame'⟩ => hf v frame'

theorem Quiet.lift {a : Action α} (h : Action.Quiet s a) : Quiet s (liftM a) :=
  fun frame => h.bind fun v => .pure (v, frame)

/-- What computes a value in every frame is quiet. -/
theorem Computes.quiet {x : Evaluation α} {v : α} (h : Computes s (fun _ => True) x v) : Quiet s x := by
  intro frame s₁ hs w s₂ hw
  obtain ⟨frame', -, hrun⟩ := h s₁ hs frame trivial
  rw [hrun] at hw
  cases hw
  exact .refl s₁

theorem quiet_modify (f : List Value → List Value) : Quiet s (modify f) :=
  fun frame => Action.Quiet.pure (PUnit.unit, f frame)

end Evaluation

/-! ## Expressions -/

namespace Machine

variable {m : Machine} {scope : Scope} {s : Store} {t : TypeTable} {source : Expr} {target : ValueType}

/-- Evaluating the expression is quiet. -/
def Quiet (m : Machine) (scope : Scope) (s : Store) (e : Expr) : Prop :=
  Evaluation.Quiet s (m.evaluate scope e)

theorem quiet_constant (v : Value) (type : ValueType) : m.Quiet scope s (.constant v type) := by
  rw [Quiet, evaluate]
  exact .pure v

theorem quiet_typedLiteral {v : Value} {type : ValueType} {e : Expr}
    (h : Expr.typedLiteral t v type = .ok e) : m.Quiet scope s e ∧ e.type = type := by
  obtain ⟨w, -, h⟩ := bind_eq_ok.1 h
  cases h
  exact ⟨quiet_constant w type, rfl⟩

theorem quiet_zero (type : ValueType) : m.Quiet scope s (.zero type) := by
  rw [Quiet, evaluate]
  exact .pure type.zero

theorem quiet_readLocal (id : LocalId) (type : ValueType) : m.Quiet scope s (.readLocal id type) := by
  intro frame
  rw [evaluate]
  exact .pure (frame[scope.layout.idxOf id]?.getD .null, frame)

theorem Quiet.convertBy {e : Expr} (h : m.Quiet scope s e) (rule : ConversionRule) :
    m.Quiet scope s (e.convertBy t rule target) := by
  have hconvert : m.Quiet scope s (.convert rule e target) := by
    rw [Quiet, evaluate]
    exact h.bind fun v => .lift (Action.quiet_ofCast _)
  unfold Expr.convertBy
  split
  · exact h
  · split
    · exact quiet_constant _ _
    · exact hconvert
  · exact hconvert

theorem Quiet.coerce {e e' : Expr} (h : m.Quiet scope s e) (hc : e.coerce t target = .ok e') :
    m.Quiet scope s e' := by
  obtain ⟨rule, -, rfl⟩ := Expr.convertTo_eq_ok hc
  exact h.convertBy rule

theorem quiet_operate (op : Operator) (l r : Value) : Evaluation.Quiet s (operate op l r) := by
  refine Evaluation.Quiet.bind (.lift Action.quiet_get) fun seen => ?_
  split
  · exact .pure _
  · exact .throw _

theorem Quiet.equal {l r : Expr} (hl : m.Quiet scope s l) (hr : m.Quiet scope s r) :
    m.Quiet scope s (.binary .eq l r) := by
  rw [Quiet, evaluate_strict m scope rfl]
  exact hl.bind fun v => hr.bind fun w => quiet_operate .eq v w

theorem Quiet.conditional {test thenExpr otherwise : Expr} (ht : m.Quiet scope s test)
    (h : m.Quiet scope s thenExpr) (h' : m.Quiet scope s otherwise) :
    m.Quiet scope s (.conditional test thenExpr otherwise) := by
  rw [Quiet, evaluate]
  refine ht.bind fun v => Evaluation.Quiet.bind ?_ fun b => ?_
  · unfold truth
    split
    · exact .pure _
    · exact .throw _
  · cases b with
    | true => exact h
    | false => exact h'

theorem Quiet.letIn {value body : Expr} (hv : m.Quiet scope s value) (hb : m.Quiet scope s body)
    (id : LocalId) : m.Quiet scope s (.letIn id value body) := by
  rw [Quiet, evaluate]
  exact hv.bind fun v => (Evaluation.quiet_modify _).bind fun _ => hb

/-! ## Value maps -/

theorem Quiet.fallback (h : m.Quiet scope s source) {map : ValueMap} {e : Expr}
    (he : map.fallback t source target = .ok e) : m.Quiet scope s e ∧ e.type = target := by
  unfold ValueMap.fallback at he
  split at he
  · exact quiet_typedLiteral he
  · exact ⟨h.coerce he, Expr.type_coerce he⟩
  · cases he
    exact ⟨quiet_zero target, rfl⟩

/-- A link compares the source with a literal and chooses between a literal and what follows. -/
theorem Quiet.link (h : m.Quiet scope s source) {entry : Value × Value} {otherwise e : Expr}
    (hother : m.Quiet scope s otherwise) (htype : otherwise.type = target)
    (he : ValueMap.link t source target entry otherwise = .ok e) :
    m.Quiet scope s e ∧ e.type = target := by
  obtain ⟨key, test, value, hkey, htest, hvalue, he⟩ := link_eq_ok he
  obtain ⟨hkeyq, hkeytype⟩ := quiet_typedLiteral hkey
  obtain ⟨hvalueq, hvaluetype⟩ := quiet_typedLiteral hvalue
  rw [Expr.mkBinary_eq_self hkeytype] at htest
  cases htest
  rw [Expr.mkConditional_self rfl (htype.trans hvaluetype.symm)] at he
  cases he
  exact ⟨(h.equal hkeyq).conditional hvalueq hother, hvaluetype⟩

theorem Quiet.chain (h : m.Quiet scope s source) {entries : List (Value × Value)} {last e : Expr}
    (hlast : m.Quiet scope s last) (htype : last.type = target)
    (he : ValueMap.chain t source target last entries = .ok e) :
    m.Quiet scope s e ∧ e.type = target := by
  induction entries generalizing e with
  | nil =>
    cases he
    exact ⟨hlast, htype⟩
  | cons entry rest ih =>
    obtain ⟨otherwise, hother, he⟩ := bind_eq_ok.1 he
    obtain ⟨hotherq, hothertype⟩ := ih hother
    exact h.link hotherq hothertype he

theorem Quiet.lower (h : m.Quiet scope s source) {map : ValueMap} {e : Expr} {n n' : LocalId}
    (he : (map.lower t source target).run.run n = (.ok e, n')) : m.Quiet scope s e := by
  obtain ⟨body, hbody, rfl⟩ := Expr.run_bindIn_eq_ok he
  obtain ⟨last, hlast, hchain⟩ := bind_eq_ok.1 (Build.run_ofExcept_eq_ok hbody)
  have hread : m.Quiet scope s (.readLocal n source.type) := quiet_readLocal n source.type
  obtain ⟨hlastq, htype⟩ := hread.fallback hlast
  exact h.letIn (hread.chain hlastq htype hchain).1 n

/-- **A quiet source stays quiet when it is finished.** -/
theorem Quiet.finish (h : m.Quiet scope s source) {map? : Option ValueMap} {e : Expr} {n n' : LocalId}
    (he : (Binding.finish t source map? target).run.run n = (.ok e, n')) : m.Quiet scope s e := by
  cases map? with
  | some map =>
    obtain ⟨mapped, n₁, hmapped, he⟩ := run_bind_eq_ok.1 he
    exact (h.lower hmapped).coerce (Build.run_ofExcept_eq_ok he)
  | none =>
    cases source with
    | constant v type => exact (quiet_typedLiteral (Build.run_ofExcept_eq_ok he)).1
    | _ => exact h.coerce (Build.run_ofExcept_eq_ok he)

end Machine
end Reshape
