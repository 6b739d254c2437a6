import Reshape.Proofs.Expr.Construction

/-!
# Substitution keeps typing

Building draws numbers, so what it yields is typed in a later context (`Build.Yields`).  Arguments in
place of parameters are converted to the parameters' types, and a renamed local has the type of the
local that it stands for (`Expr.Renaming.Typed`): so substitution yields a well-typed expression of
the same type (`Expr.yields_substitute`), and so does applying a lambda (`Lambda.yields_apply`).
-/

namespace Reshape

/-! ## Building -/

namespace Build

open Expr (Context)

variable {α β : Type} {c : Context} {a : Build α} {post : α → Context → Prop}

/-- What building yields, if it does, is as `post` says in a later context. -/
def Yields (c : Context) (a : Build α) (post : α → Context → Prop) : Prop :=
  ∀ v n, a.run.run c.next = (.ok v, n) → ∃ c', c.Extends c' ∧ c'.next = n ∧ post v c'

theorem Yields.pure {v : α} (h : post v c) : Yields c (pure v) post := by
  intro w n hrun
  cases hrun
  exact ⟨c, .refl c, rfl, h⟩

theorem Yields.throw {e : Error} : Yields c (MonadExcept.throw e : Build α) post := by
  intro w n hrun
  cases hrun

theorem Yields.bind {f : α → Build β} {post' : β → Context → Prop} (ha : Yields c a post)
    (hf : ∀ v c', c.Extends c' → post v c' → Yields c' (f v) post') :
    Yields c (a >>= f) post' := by
  intro w n hrun
  obtain ⟨v, n₁, hv, hw⟩ := run_bind_eq_ok.1 hrun
  obtain ⟨c₁, hc₁, rfl, hpost⟩ := ha v n₁ hv
  obtain ⟨c₂, hc₂, hn, hpost'⟩ := hf v c₁ hc₁ hpost w n hw
  exact ⟨c₂, hc₁.trans hc₂, hn, hpost'⟩

/-- The next number is drawn, for a value of a type. -/
theorem Yields.fresh (type : ValueType) :
    Yields c fresh fun id c' => id < c'.next ∧ c'.type id = type := by
  intro id n hrun
  cases hrun
  exact ⟨c.bind type, c.extends_bind type, rfl, Nat.lt_succ_self _, c.bind_next type⟩

theorem Yields.ofExcept {r : Except Error α} (h : ∀ v, r = .ok v → post v c) :
    Yields c (ofExcept r) post := by
  cases r with
  | ok v => exact .pure (h v rfl)
  | error e => exact .throw

end Build

namespace Expr

variable {t : TypeTable} {c c' : Context}

/-! ## Renamed locals -/

/-- Each renamed local was drawn for a value of the type of the local that it stands for. -/
def Renaming.Typed (r : Renaming) (c : Context) : Prop :=
  ∀ p ∈ r, p.1 < c.next ∧ p.2 < c.next ∧ c.type p.2 = c.type p.1

theorem Renaming.Typed.mono {r : Renaming} (hc : c.Extends c') (h : r.Typed c) : r.Typed c' := by
  intro p hp
  obtain ⟨hfst, hsnd, htype⟩ := h p hp
  refine ⟨Nat.lt_of_lt_of_le hfst hc.next_le, Nat.lt_of_lt_of_le hsnd hc.next_le, ?_⟩
  rw [hc.type_eq _ hfst, hc.type_eq _ hsnd, htype]

theorem Renaming.Typed.apply {r : Renaming} (h : r.Typed c) {id : LocalId} (hid : id < c.next) :
    r.apply id < c.next ∧ c.type (r.apply id) = c.type id := by
  unfold Renaming.apply
  split
  · rename_i source renamed hfind
    have hmem := List.mem_of_find?_eq_some hfind
    have hsource : source = id := by simpa using List.find?_some hfind
    subst hsource
    exact (h _ hmem).2
  · exact ⟨hid, rfl⟩

/-! ## Substitution -/

/-- A receiver is as typed as another one of the same type. -/
theorem ReceiverTyped.of_map_type {owner : TypeId} {isStatic : Bool} {receiver receiver' : Option Expr}
    (h : ReceiverTyped owner isStatic receiver)
    (htype : receiver'.map type = receiver.map type) : ReceiverTyped owner isStatic receiver' := by
  cases receiver <;> cases receiver' <;> simp only [Option.map_none, Option.map_some, reduceCtorEq,
    Option.some.injEq] at htype
  · exact h
  · exact ⟨h.1, htype.trans h.2⟩

/-- Initialisers of the same targets with values of the same types. -/
def SameBindings (bindings bindings' : List (AssignTarget × Expr)) : Prop :=
  bindings'.map (fun b => (b.1, b.2.type)) = bindings.map fun b => (b.1, b.2.type)

theorem SameBindings.targetTyped {object : TypeId} {bindings bindings' : List (AssignTarget × Expr)}
    (h : SameBindings bindings bindings')
    (ht : ∀ b ∈ bindings, TargetTyped t object b.1 b.2.type) :
    ∀ b ∈ bindings', TargetTyped t object b.1 b.2.type := by
  intro b hb
  have hmem : (b.1, b.2.type) ∈ bindings.map fun b => (b.1, b.2.type) :=
    h ▸ List.mem_map.2 ⟨b, hb, rfl⟩
  obtain ⟨b₀, hb₀, heq⟩ := List.mem_map.1 hmem
  rw [Prod.mk.injEq] at heq
  exact heq.1 ▸ heq.2 ▸ ht b₀ hb₀

variable {args : List Expr}

theorem Typed.later {e : Expr} (h : Typed t c e) (hc : c.Extends c') : Typed t c' e :=
  Typed.mono (.refl t) hc h

theorem typed_args_mono (hc : c.Extends c') (h : ∀ e ∈ args, Typed t c e) :
    ∀ e ∈ args, Typed t c' e :=
  fun e he => (h e he).later hc

mutual

/-- Substitution yields a well-typed expression of the same type. -/
theorem yields_substitute {c : Context} {r : Renaming} (ha : ∀ e ∈ args, Typed t c e)
    (hr : r.Typed c) : (e : Expr) → Typed t c e →
      Build.Yields c (substitute t args r e) fun e' c' => Typed t c' e' ∧ e'.type = e.type
  | binary op lhs rhs, he => by
    obtain ⟨hnode, hlhs, hrhs⟩ := each_binary.1 he
    rw [substitute]
    refine (yields_substitute ha hr lhs hlhs).bind fun lhs' c₁ h₁ hl => ?_
    refine (yields_substitute (typed_args_mono h₁ ha) (hr.mono h₁) rhs
      (Typed.later hrhs h₁)).bind fun rhs' c₂ h₂ hr' => .pure ?_
    refine ⟨each_binary.2 ⟨?_, Typed.later hl.1 h₂, hr'.1⟩, by simp only [type, hl.2]⟩
    simpa only [NodeTyped, hl.2, hr'.2] using hnode
  | call method receiver es, he => by
    obtain ⟨⟨hmethod, hreceiver, htypes⟩, hrec, hes⟩ := each_call.1 he
    rw [substitute]
    refine (yields_substituteReceiver ha hr receiver hrec).bind fun receiver' c₁ h₁ hrec' => ?_
    refine (yields_substituteAll (typed_args_mono h₁ ha) (hr.mono h₁) es
      fun e he => Typed.later (hes e he) h₁).bind fun es' c₂ h₂ hes' => .pure ?_
    refine ⟨each_call.2 ⟨⟨hmethod, hreceiver.of_map_type hrec'.2, hes'.2.trans htypes⟩, ?_, hes'.1⟩,
      rfl⟩
    exact fun e he => Typed.later (hrec'.1 e he) h₂
  | conditional test thenExpr otherwise, he => by
    obtain ⟨⟨hbool, hsame⟩, htest, hthen, hotherwise⟩ := each_conditional.1 he
    rw [substitute]
    refine (yields_substitute ha hr test htest).bind fun test' c₁ h₁ ht => ?_
    refine (yields_substitute (typed_args_mono h₁ ha) (hr.mono h₁) thenExpr
      (Typed.later hthen h₁)).bind fun then' c₂ h₂ hth => ?_
    have h₁₂ := h₁.trans h₂
    refine (yields_substitute (typed_args_mono h₁₂ ha) (hr.mono h₁₂) otherwise
      (Typed.later hotherwise h₁₂)).bind fun otherwise' c₃ h₃ ho => .pure ?_
    refine ⟨each_conditional.2 ⟨⟨ht.2.trans hbool, ?_⟩, Typed.later ht.1 (h₂.trans h₃),
      Typed.later hth.1 h₃, ho.1⟩, hth.2⟩
    rw [hth.2, ho.2, hsame]
  | constant v type, he => by
    rw [substitute]
    exact .pure ⟨he, rfl⟩
  | convert rule operand type, he => by
    obtain ⟨-, hoperand⟩ := each_convert.1 he
    rw [substitute]
    refine (yields_substitute ha hr operand hoperand).bind fun operand' c₁ h₁ ho => .pure ?_
    exact ⟨each_convert.2 ⟨trivial, ho.1⟩, rfl⟩
  | zero type, he => by
    rw [substitute]
    exact .pure ⟨he, rfl⟩
  | fieldGet f receiver, he => by
    obtain ⟨⟨hf, hreceiver⟩, hrec⟩ := each_fieldGet.1 he
    rw [substitute]
    refine (yields_substituteReceiver ha hr receiver hrec).bind fun receiver' c₁ h₁ hrec' => .pure ?_
    exact ⟨each_fieldGet.2 ⟨⟨hf, hreceiver.of_map_type hrec'.2⟩, hrec'.1⟩, rfl⟩
  | fieldSet f receiver value, he => by
    obtain ⟨⟨hf, hreceiver, htype, hinit⟩, hrec, hvalue⟩ := each_fieldSet.1 he
    rw [substitute]
    refine (yields_substituteReceiver ha hr receiver hrec).bind fun receiver' c₁ h₁ hrec' => ?_
    refine (yields_substitute (typed_args_mono h₁ ha) (hr.mono h₁) value
      (Typed.later hvalue h₁)).bind fun value' c₂ h₂ hv => .pure ?_
    refine ⟨each_fieldSet.2 ⟨⟨hf, hreceiver.of_map_type hrec'.2, hv.2.trans htype, hinit⟩, ?_, hv.1⟩,
      rfl⟩
    exact fun e he => Typed.later (hrec'.1 e he) h₂
  | index list position, he => by
    obtain ⟨⟨element, helement⟩, hlist⟩ := each_index.1 he
    rw [substitute]
    refine (yields_substitute ha hr list hlist).bind fun list' c₁ h₁ hl => .pure ?_
    exact ⟨each_index.2 ⟨⟨element, hl.2.trans helement⟩, hl.1⟩, by simp only [type, hl.2]⟩
  | letIn id value body, he => by
    obtain ⟨⟨hid, hidtype⟩, hvalue, hbody⟩ := each_letIn.1 he
    rw [substitute]
    refine (yields_substitute ha hr value hvalue).bind fun value' c₁ h₁ hv => ?_
    refine (Build.Yields.fresh value.type).bind fun renamed c₂ h₂ hrenamed => ?_
    have h₁₂ := h₁.trans h₂
    -- the new number stands for the old one inside the body
    have hr' : Renaming.Typed ((id, renamed) :: r) c₂ := by
      intro p hp
      rcases List.mem_cons.1 hp with rfl | hp
      · refine ⟨Nat.lt_of_lt_of_le hid h₁₂.next_le, hrenamed.1, ?_⟩
        exact hrenamed.2.trans ((h₁₂.type_eq id hid).trans hidtype).symm
      · exact hr.mono h₁₂ p hp
    refine (yields_substitute (typed_args_mono h₁₂ ha) hr' body
      (Typed.later hbody h₁₂)).bind fun body' c₃ h₃ hb => .pure ?_
    refine ⟨each_letIn.2 ⟨⟨Nat.lt_of_lt_of_le hrenamed.1 h₃.next_le, ?_⟩,
      Typed.later hv.1 (h₂.trans h₃), hb.1⟩, hb.2⟩
    rw [h₃.type_eq _ hrenamed.1, hrenamed.2, hv.2]
  | readLocal id type, he => by
    obtain ⟨hid, htype⟩ := each_readLocal.1 he
    obtain ⟨hid', htype'⟩ := hr.apply hid
    rw [substitute]
    exact .pure ⟨each_readLocal.2 ⟨hid', htype'.trans htype⟩, rfl⟩
  | memberInit object bindings, he => by
    obtain ⟨⟨target, htarget, htargets⟩, hobject, hbindings⟩ := each_memberInit.1 he
    rw [substitute]
    refine (yields_substitute ha hr object hobject).bind fun object' c₁ h₁ ho => ?_
    refine (yields_substituteBindings (typed_args_mono h₁ ha) (hr.mono h₁) bindings
      fun b hb => Typed.later (hbindings b hb) h₁).bind fun bindings' c₂ h₂ hb => .pure ?_
    exact ⟨each_memberInit.2 ⟨⟨target, ho.2.trans htarget, hb.2.targetTyped htargets⟩,
      Typed.later ho.1 h₂, hb.1⟩, ho.2⟩
  | navigate receiver m, he => by
    obtain ⟨⟨hm, hstatic, hreadable, htype⟩, hreceiver⟩ := each_navigate.1 he
    rw [substitute]
    refine (yields_substitute ha hr receiver hreceiver).bind fun receiver' c₁ h₁ hrec => .pure ?_
    exact ⟨each_navigate.2 ⟨⟨hm, hstatic, hreadable, hrec.2.trans htype⟩, hrec.1⟩, rfl⟩
  | construct ctor es, he => by
    obtain ⟨⟨hctor, htypes⟩, hes⟩ := each_construct.1 he
    rw [substitute]
    refine (yields_substituteAll ha hr es hes).bind fun es' c₁ h₁ hes' => .pure ?_
    exact ⟨each_construct.2 ⟨⟨hctor, hes'.2.trans htypes⟩, hes'.1⟩, rfl⟩
  | negate operand, he => by
    obtain ⟨hbool, hoperand⟩ := each_negate.1 he
    rw [substitute]
    refine (yields_substitute ha hr operand hoperand).bind fun operand' c₁ h₁ ho => .pure ?_
    exact ⟨each_negate.2 ⟨ho.2.trans hbool, ho.1⟩, rfl⟩
  | parameter place type, he => by
    rw [substitute]
    split
    · rename_i arg harg
      exact .ofExcept fun e h => typed_coerce (ha arg (List.mem_of_getElem? harg)) h
    · exact .throw
  | sequence front last, he => by
    obtain ⟨-, hfront, hlast⟩ := each_sequence.1 he
    rw [substitute]
    refine (yields_substituteAll ha hr front hfront).bind fun front' c₁ h₁ hf => ?_
    refine (yields_substitute (typed_args_mono h₁ ha) (hr.mono h₁) last
      (Typed.later hlast h₁)).bind fun last' c₂ h₂ hl => .pure ?_
    refine ⟨each_sequence.2 ⟨trivial, ?_, hl.1⟩, hl.2⟩
    exact fun e he => Typed.later (hf.1 e he) h₂
  | writePrimitive f receiver value, he => by
    obtain ⟨⟨hf, hreceiver, htype⟩, hrec, hvalue⟩ := each_writePrimitive.1 he
    rw [substitute]
    refine (yields_substituteReceiver ha hr receiver hrec).bind fun receiver' c₁ h₁ hrec' => ?_
    refine (yields_substitute (typed_args_mono h₁ ha) (hr.mono h₁) value
      (Typed.later hvalue h₁)).bind fun value' c₂ h₂ hv => .pure ?_
    refine ⟨each_writePrimitive.2 ⟨⟨hf, hreceiver.of_map_type hrec'.2, hv.2.trans htype⟩, ?_, hv.1⟩,
      rfl⟩
    exact fun e he => Typed.later (hrec'.1 e he) h₂

theorem yields_substituteAll {c : Context} {r : Renaming} (ha : ∀ e ∈ args, Typed t c e)
    (hr : r.Typed c) : (es : List Expr) → (∀ e ∈ es, Typed t c e) →
      Build.Yields c (substituteAll t args r es) fun es' c' =>
        (∀ e ∈ es', Typed t c' e) ∧ es'.map type = es.map type
  | [], _ => by
    rw [substituteAll]
    exact .pure (by simp)
  | e :: es, hes => by
    rw [substituteAll]
    refine (yields_substitute ha hr e (hes e (List.mem_cons_self ..))).bind fun e' c₁ h₁ he => ?_
    refine (yields_substituteAll (typed_args_mono h₁ ha) (hr.mono h₁) es fun e he =>
      Typed.later (hes e (List.mem_cons_of_mem _ he)) h₁).bind fun es' c₂ h₂ hes' => .pure ?_
    refine ⟨List.forall_mem_cons.2 ⟨Typed.later he.1 h₂, hes'.1⟩, ?_⟩
    rw [List.map_cons, List.map_cons, he.2, hes'.2]

theorem yields_substituteReceiver {c : Context} {r : Renaming} (ha : ∀ e ∈ args, Typed t c e)
    (hr : r.Typed c) : (receiver : Option Expr) → (∀ e, receiver = some e → Typed t c e) →
      Build.Yields c (substituteReceiver t args r receiver) fun receiver' c' =>
        (∀ e, receiver' = some e → Typed t c' e) ∧ receiver'.map type = receiver.map type
  | none, _ => by
    rw [substituteReceiver]
    exact .pure (by simp)
  | some e, hrec => by
    rw [substituteReceiver]
    refine (yields_substitute ha hr e (hrec e rfl)).bind fun e' c₁ h₁ he => .pure ?_
    refine ⟨fun e'' heq => ?_, by simp only [Option.map_some, he.2]⟩
    cases heq
    exact he.1

theorem yields_substituteBindings {c : Context} {r : Renaming} (ha : ∀ e ∈ args, Typed t c e)
    (hr : r.Typed c) : (bindings : List (AssignTarget × Expr)) →
      (∀ b ∈ bindings, Typed t c b.2) →
      Build.Yields c (substituteBindings t args r bindings) fun bindings' c' =>
        (∀ b ∈ bindings', Typed t c' b.2) ∧ SameBindings bindings bindings'
  | [], _ => by
    rw [substituteBindings]
    exact .pure (by simp [SameBindings])
  | (target, e) :: bindings, hb => by
    rw [substituteBindings]
    refine (yields_substitute ha hr e (hb _ (List.mem_cons_self ..))).bind fun e' c₁ h₁ he => ?_
    refine (yields_substituteBindings (typed_args_mono h₁ ha) (hr.mono h₁) bindings fun b hb' =>
      Typed.later (hb b (List.mem_cons_of_mem _ hb')) h₁).bind fun bindings' c₂ h₂ hbs => .pure ?_
    refine ⟨List.forall_mem_cons.2 ⟨Typed.later he.1 h₂, hbs.1⟩, ?_⟩
    have htail := hbs.2
    simp only [SameBindings, List.map_cons, he.2] at htail ⊢
    rw [htail]

end

end Expr

/-! ## Applying lambdas -/

namespace Lambda

open Expr

variable {t : TypeTable} {c : Context}

theorem typed_coerceAll {parameters : List ParameterDecl} {args es : List Expr}
    (ha : ∀ e ∈ args, Typed t c e) (h : coerceAll t parameters args = .ok es) :
    ∀ e ∈ es, Typed t c e := by
  induction parameters generalizing args es with
  | nil =>
    cases args <;> cases h <;> simp
  | cons p parameters ih =>
    cases args with
    | nil =>
      cases h
      simp
    | cons arg args =>
      obtain ⟨e, he, h⟩ := bind_eq_ok.1 h
      obtain ⟨rest, hrest, h⟩ := bind_eq_ok.1 h
      cases h
      exact List.forall_mem_cons.2 ⟨(typed_coerce (ha arg (List.mem_cons_self ..)) he).1,
        ih (fun e he => ha e (List.mem_cons_of_mem _ he)) hrest⟩

/-- The body of a lambda, with arguments in place of the parameters, is well typed. -/
theorem yields_apply {l : Lambda} {args : List Expr} (hbody : Typed t c l.body)
    (ha : ∀ e ∈ args, Typed t c e) :
    Build.Yields c (l.apply t args) fun e c' => Typed t c' e ∧ e.type = l.resultType := by
  have hrest : Build.Yields c (Build.ofExcept (coerceAll t l.parameters args) >>= l.body.rebind t)
      fun e c' => Typed t c' e ∧ e.type = l.resultType := by
    have hargs : Build.Yields c (Build.ofExcept (coerceAll t l.parameters args)) fun es c' =>
        ∀ e ∈ es, Typed t c' e := .ofExcept fun es hes => typed_coerceAll ha hes
    refine hargs.bind fun es c₁ h₁ hes => ?_
    exact yields_substitute hes (by simp [Renaming.Typed]) l.body (Typed.later hbody h₁)
  simp only [apply]
  by_cases harity : args.length ≠ l.parameters.length
  · rw [if_pos harity]
    exact .throw
  · rw [if_neg harity]
    exact hrest

end Lambda
end Reshape
