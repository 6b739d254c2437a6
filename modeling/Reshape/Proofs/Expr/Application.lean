import Reshape.Proofs.Expr.Purity
import Reshape.Proofs.Expr.Scoping

/-!
# Applying lambdas to expressions

Applying a lambda puts the converted arguments in place of the parameters and renames the local
bindings of the body.  If neither the body nor the arguments do more than read, the result evaluates as
the body does with the values of the arguments (`Expr.stands_substitute`): a renamed local has the value
of the one that it stands for, and the fresh numbers capture nothing that is free in an argument
(`Expr.Joined`).  The result is an argument in its turn, so this holds of nested applications too
(`Draft.Formed.apply_evaluates`).
-/

namespace Reshape
namespace Expr

/-! ## Scopes inside and outside -/

/-- How the scope inside the body of a lambda, and the scope at the copy of that place, fit together: the
arguments `es` have the values `ws` there, and each local of the body is renamed to one with its value. -/
structure Joined (m : Machine) (s : Store) (outer ws : List Value) (es : List Expr)
    (bound : List LocalId) (r : Renaming) (inner locals : Locals) (next : LocalId) : Prop where
  /-- Arguments evaluate to their values. -/
  args : List.Forall₂ (fun e w => (m.evaluateIn outer locals e).perform s = (.ok w, s)) es ws
  /-- The locals of the body are those that are renamed. -/
  ids : inner.ids = r.map Prod.fst
  /-- A renamed local has the value of the one that it stands for. -/
  renamed : ∀ id v, inner.lookup id = some v → locals.lookup (r.apply id) = some v
  /-- What is free in the arguments is in scope. -/
  scope : bound ⊆ locals.ids
  /-- What is in scope was drawn. -/
  below : ∀ id ∈ locals.ids, id < next

section Joined

variable {m : Machine} {s : Store} {outer ws : List Value} {es : List Expr} {bound : List LocalId}
  {r : Renaming} {inner locals : Locals} {next next' : LocalId}

theorem Joined.mono (h : Joined m s outer ws es bound r inner locals next) (hnext : next ≤ next') :
    Joined m s outer ws es bound r inner locals next' :=
  ⟨h.args, h.ids, h.renamed, h.scope, fun id hid => Nat.lt_of_lt_of_le (h.below id hid) hnext⟩

theorem lookup_cons_of_ne {id other : LocalId} (h : other ≠ id) (v : Value) (locals : Locals) :
    List.lookup other ((id, v) :: locals) = locals.lookup other := by
  rw [List.lookup_cons, beq_false_of_ne h]

/-- Inside a binding of the body: its copy has a fresh number, which no argument reads. -/
theorem Joined.bind (hes : ∀ e ∈ es, Reads bound e)
    (h : Joined m s outer ws es bound r inner locals next) (id : LocalId) (v : Value) :
    Joined m s outer ws es bound ((id, next) :: r) ((id, v) :: inner) ((next, v) :: locals)
      (next + 1) := by
  have hfresh : ∀ other ∈ locals.ids, other ≠ next := fun other hother =>
    Nat.ne_of_lt (h.below other hother)
  refine ⟨?_, ?_, fun other w hw => ?_, ?_, ?_⟩
  · refine ((List.forall₂_and_left es ws).2 ⟨hes, h.args⟩).imp ?_
    rintro e w ⟨he, hw⟩
    have hagree : AgreeIn m s outer locals e outer ((next, v) :: locals) e := by
      refine he.agree_of_lookup fun other hother => ?_
      obtain ⟨x, hx⟩ := Locals.exists_lookup (h.scope hother)
      exact ⟨x, hx, (lookup_cons_of_ne (hfresh other (h.scope hother)) v locals).trans hx⟩
    obtain ⟨result, hl, hr⟩ := hagree
    exact hr.trans (hl.symm.trans hw)
  · exact congrArg (id :: ·) h.ids
  · by_cases heq : other = id
    · subst heq
      rw [List.lookup_cons_self] at hw
      have happly : Renaming.apply ((other, next) :: r) other = next := by simp [Renaming.apply]
      rw [happly, List.lookup_cons_self, hw]
    · rw [lookup_cons_of_ne heq] at hw
      have happly : Renaming.apply ((id, next) :: r) other = r.apply other := by
        simp [Renaming.apply, Ne.symm heq]
      have hrenamed := h.renamed other w hw
      rw [happly, lookup_cons_of_ne (hfresh _ (Locals.mem_ids_of_lookup hrenamed)), hrenamed]
  · exact List.Subset.trans h.scope (List.subset_cons_self ..)
  · refine List.forall_mem_cons.2 ⟨Nat.lt_succ_self _, fun other hother => ?_⟩
    exact Nat.lt_succ_of_lt (h.below other hother)

end Joined

/-! ## Substitution -/

/-- What stands in place of an expression of the body: it only reads too, and evaluates as the expression
does, in scopes that fit together. -/
structure Stands (es : List Expr) (bound : List LocalId) (r : Renaming) (next : LocalId)
    (e e' : Expr) : Prop where
  /-- It only reads. -/
  reads : Reads (r.map Prod.snd ++ bound) e'
  /-- It evaluates as what it stands for. -/
  agree : ∀ m s outer ws inner locals, Joined m s outer ws es bound r inner locals next →
    AgreeIn m s ws inner e outer locals e'

section Substitution

variable {t : TypeTable} {es : List Expr} {bound : List LocalId} {r : Renaming} {c c' : Context}

theorem Stands.earlier {e e' : Expr} (h : Stands es bound r c'.next e e') (hc : c.Extends c') :
    Stands es bound r c.next e e' :=
  ⟨h.reads, fun m s outer ws inner locals hj => h.agree m s outer ws inner locals (hj.mono hc.next_le)⟩

theorem stands_substituteAll {fs : List Expr} (h : ∀ e ∈ fs, ∀ c : Context,
      Build.Yields c (substitute t es r e) fun e' _ => Stands es bound r c.next e e') (c : Context) :
    Build.Yields c (substituteAll t es r fs) fun fs' _ =>
      List.Forall₂ (Stands es bound r c.next) fs fs' := by
  induction fs generalizing c with
  | nil =>
    rw [substituteAll]
    exact .pure .nil
  | cons e fs ih =>
    rw [substituteAll]
    refine (h e (List.mem_cons_self ..) c).bind fun e' c₁ h₁ he => ?_
    refine (ih (fun e he => h e (List.mem_cons_of_mem _ he)) c₁).bind fun fs' c₂ _ hfs => .pure ?_
    exact .cons he (hfs.imp fun _ _ hf => hf.earlier h₁)

theorem stands_substituteReceiver {receiver : Option Expr} (h : ∀ e, receiver = some e →
      ∀ c : Context, Build.Yields c (substitute t es r e) fun e' _ => Stands es bound r c.next e e')
    (c : Context) : Build.Yields c (substituteReceiver t es r receiver) fun receiver' _ =>
      Option.Rel (Stands es bound r c.next) receiver receiver' := by
  cases receiver with
  | none =>
    rw [substituteReceiver]
    exact .pure .none
  | some e =>
    rw [substituteReceiver]
    exact (h e rfl c).bind fun e' c₁ _ he => .pure (.some he)

theorem reads_of_forall₂ {fs fs' : List Expr} {next : LocalId}
    (h : List.Forall₂ (Stands es bound r next) fs fs') :
    ∀ e' ∈ fs', Reads (r.map Prod.snd ++ bound) e' := by
  intro e' he'
  obtain ⟨e, -, hstands⟩ := exists_of_mem_forall₂ h he'
  exact hstands.reads

theorem reads_of_rel {receiver receiver' : Option Expr} {next : LocalId}
    (h : Option.Rel (Stands es bound r next) receiver receiver') :
    ∀ e', receiver' = some e' → Reads (r.map Prod.snd ++ bound) e' := by
  rintro e' rfl
  cases h with
  | some hstands => exact hstands.reads

theorem declared_of_checkParameter {parameters : List ParameterDecl} {place : Nat} {type : ValueType}
    (h : (Expr.parameter place type).checkParameter parameters = .ok ()) :
    ∃ d, parameters[place]? = some d ∧ d.type = type := by
  rw [checkParameter] at h
  split at h
  · rename_i d hd
    split at h
    · exact ⟨d, hd, ‹_›⟩
    · cases h
  · cases h

/-- **Substitution.**  A pure expression of the body of a lambda, with arguments that only read in place
of the parameters, stands in place of that expression. -/
theorem stands_substitute (hes : ∀ e ∈ es, Reads bound e) {parameters : List ParameterDecl}
    (htypes : es.map type = parameters.map (·.type)) {ids : List LocalId} {e : Expr}
    (he : Reads ids e) (hids : ids = r.map Prod.fst)
    (hparameters : e.Each fun n => n.checkParameter parameters = .ok ()) (c : Context) :
    Build.Yields c (substitute t es r e) fun e' _ => Stands es bound r c.next e e' := by
  induction he generalizing r c with
  | binary _ _ ihl ihr =>
    obtain ⟨-, hpl, hpr⟩ := each_binary.1 hparameters
    rw [substitute]
    refine (ihl hids hpl c).bind fun lhs' c₁ h₁ hl => (ihr hids hpr c₁).bind fun rhs' c₂ _ hr => ?_
    refine .pure ⟨.binary hl.reads hr.reads, fun m s outer ws inner locals hj => ?_⟩
    exact .binary (hl.agree m s outer ws inner locals hj)
      ((hr.earlier h₁).agree m s outer ws inner locals hj)
  | call hr _ _ ihreceiver ihes =>
    obtain ⟨-, hprec, hpes⟩ := each_call.1 hparameters
    rw [substitute]
    refine (stands_substituteReceiver (fun e he => ihreceiver e he hids (hprec e he)) c).bind
      fun receiver' c₁ h₁ hreceiver => ?_
    refine (stands_substituteAll (fun e he => ihes e he hids (hpes e he)) c₁).bind
      fun es' c₂ _ hes' => .pure ⟨.call hr (reads_of_rel hreceiver) (reads_of_forall₂ hes'), ?_⟩
    intro m s outer ws inner locals hj
    exact .call hr (optionRel_imp hreceiver fun _ _ h => h.agree m s outer ws inner locals hj)
      (hes'.imp fun _ _ h => (h.earlier h₁).agree m s outer ws inner locals hj)
  | conditional _ _ _ iht ihthen ihelse =>
    obtain ⟨-, hpt, hp₁, hp₂⟩ := each_conditional.1 hparameters
    rw [substitute]
    refine (iht hids hpt c).bind fun test' c₁ h₁ ht => ?_
    refine (ihthen hids hp₁ c₁).bind fun then' c₂ h₂ hth => ?_
    refine (ihelse hids hp₂ c₂).bind fun otherwise' c₃ _ ho => ?_
    refine .pure ⟨.conditional ht.reads hth.reads ho.reads, fun m s outer ws inner locals hj => ?_⟩
    exact .conditional (ht.agree m s outer ws inner locals hj)
      ((hth.earlier h₁).agree m s outer ws inner locals hj)
      ((ho.earlier (h₁.trans h₂)).agree m s outer ws inner locals hj)
  | constant v type =>
    rw [substitute]
    exact .pure ⟨.constant v type, fun _ _ _ _ _ _ _ => .constant v type⟩
  | convert _ ih =>
    rw [substitute]
    refine (ih hids (each_convert.1 hparameters).2 c).bind fun e' c₁ _ h => .pure ⟨.convert h.reads, ?_⟩
    exact fun m s outer ws inner locals hj => .convert (h.agree m s outer ws inner locals hj)
  | zero type =>
    rw [substitute]
    exact .pure ⟨.zero type, fun _ _ _ _ _ _ _ => .zero type⟩
  | fieldGet _ ihreceiver =>
    rw [substitute]
    refine (stands_substituteReceiver (fun e he => ihreceiver e he hids
      ((each_fieldGet.1 hparameters).2 e he)) c).bind fun receiver' c₁ _ hreceiver => ?_
    refine .pure ⟨.fieldGet (reads_of_rel hreceiver), fun m s outer ws inner locals hj => ?_⟩
    exact .fieldGet (optionRel_imp hreceiver fun _ _ h => h.agree m s outer ws inner locals hj)
  | index _ ih =>
    rw [substitute]
    refine (ih hids (each_index.1 hparameters).2 c).bind fun e' c₁ _ h => .pure ⟨.index h.reads, ?_⟩
    exact fun m s outer ws inner locals hj => .index (h.agree m s outer ws inner locals hj)
  | @letIn ids id value body _ _ ihv ihb =>
    obtain ⟨-, hpv, hpb⟩ := each_letIn.1 hparameters
    rw [substitute]
    refine (ihv hids hpv c).bind fun value' c₁ h₁ hv => yields_fresh.bind fun renamed c₂ h₂ hrenamed => ?_
    obtain ⟨rfl, hnext⟩ := hrenamed
    refine (ihb (r := (id, c₁.next) :: r) (congrArg (id :: ·) hids) hpb c₂).bind
      fun body' c₃ _ hb => .pure ⟨.letIn hv.reads hb.reads, ?_⟩
    intro m s outer ws inner locals hj
    refine .letIn (hv.agree m s outer ws inner locals hj) fun v => ?_
    exact hb.agree m s outer ws _ _ (hnext ▸ (hj.mono h₁.next_le).bind hes id v)
  | @readLocal ids id type hid =>
    rw [substitute]
    have hmem : r.apply id ∈ r.map Prod.snd := by
      obtain ⟨p, hp, rfl⟩ := List.mem_map.1 (hids ▸ hid)
      unfold Renaming.apply
      split
      · rename_i source renamed hfind
        exact List.mem_map.2 ⟨_, List.mem_of_find?_eq_some hfind, rfl⟩
      · rename_i hnone
        simpa using List.find?_eq_none.1 hnone p hp
    refine .pure ⟨.readLocal (List.mem_append_left _ hmem), fun m s outer ws inner locals hj => ?_⟩
    obtain ⟨v, hv⟩ := Locals.exists_lookup (hj.ids ▸ hids ▸ hid)
    exact .readLocal hv (hj.renamed id v hv)
  | memberInit _ ih =>
    rw [substitute]
    refine (ih hids (each_memberInit.1 hparameters).2.1 c).bind fun e' c₁ _ h => ?_
    rw [substituteBindings]
    refine .pure ⟨.memberInit h.reads, ?_⟩
    exact fun m s outer ws inner locals hj => .memberInit (h.agree m s outer ws inner locals hj)
  | navigate hm _ ih =>
    rw [substitute]
    refine (ih hids (each_navigate.1 hparameters).2 c).bind
      fun e' c₁ _ h => .pure ⟨.navigate hm h.reads, ?_⟩
    exact fun m s outer ws inner locals hj => .navigate hm (h.agree m s outer ws inner locals hj)
  | negate _ ih =>
    rw [substitute]
    refine (ih hids (each_negate.1 hparameters).2 c).bind fun e' c₁ _ h => .pure ⟨.negate h.reads, ?_⟩
    exact fun m s outer ws inner locals hj => .negate (h.agree m s outer ws inner locals hj)
  | parameter place type =>
    rw [substitute]
    split
    · rename_i arg harg
      -- the parameter is declared with the type that the argument was converted to
      obtain ⟨d, hd, rfl⟩ := declared_of_checkParameter (each_parameter.1 hparameters)
      have htype : arg.type = d.type := by
        have hplace := congrArg (·[place]?) htypes
        simpa [harg, hd] using hplace
      refine .ofExcept fun e' he' => ?_
      rw [← htype, coerce_self] at he'
      cases he'
      refine ⟨(hes arg (List.mem_of_getElem? harg)).mono (List.subset_append_right ..), ?_⟩
      intro m s outer ws inner locals hj
      obtain ⟨w, hw, hvalue⟩ := exists_getElem?_of_forall₂ hj.args harg
      refine ⟨.ok w, ?_, hvalue⟩
      rw [Machine.evaluateIn, hw]
      rfl
    · exact .throw
  | sequence _ _ ihf ihl =>
    obtain ⟨-, hpf, hpl⟩ := each_sequence.1 hparameters
    rw [substitute]
    refine (stands_substituteAll (fun e he => ihf e he hids (hpf e he)) c).bind
      fun front' c₁ h₁ hf => (ihl hids hpl c₁).bind fun last' c₂ _ hl => ?_
    refine .pure ⟨.sequence (reads_of_forall₂ hf) hl.reads, fun m s outer ws inner locals hj => ?_⟩
    exact .sequence (hf.imp fun _ _ h => h.agree m s outer ws inner locals hj)
      ((hl.earlier h₁).agree m s outer ws inner locals hj)

end Substitution

end Expr

/-! ## Arguments -/

namespace Lambda

open Expr (Reads)

variable {t : TypeTable} {parameters : List ParameterDecl} {args es : List Expr}

/-- Converted arguments have the types of the parameters. -/
theorem map_type_coerceAll (h : coerceAll t parameters args = .ok es)
    (hlength : args.length = parameters.length) :
    es.map Expr.type = parameters.map (·.type) := by
  induction parameters generalizing args es with
  | nil =>
    cases args with
    | nil =>
      cases h
      rfl
    | cons arg args => cases hlength
  | cons p parameters ih =>
    cases args with
    | nil => cases hlength
    | cons arg args =>
      obtain ⟨e, he, h⟩ := bind_eq_ok.1 h
      obtain ⟨rest, hrest, h⟩ := bind_eq_ok.1 h
      cases h
      rw [List.map_cons, List.map_cons, Expr.type_coerce he,
        ih hrest (by simpa using hlength)]

theorem reads_coerceAll {bound : List LocalId} (ha : ∀ a ∈ args, Reads bound a)
    (h : coerceAll t parameters args = .ok es) : ∀ e ∈ es, Reads bound e := by
  intro e he
  obtain ⟨a, hmem, type, hcoerce⟩ := exists_of_mem_coerceAll h he
  exact (ha a hmem).coerce hcoerce

end Lambda

/-- In a frame with room for its bindings that holds the locals in scope, the expression yields a value. -/
def Machine.Gives (m : Machine) (s : Store) (outer : List Value) (locals : Locals) (e : Expr)
    (v : Value) : Prop :=
  ∃ layout frame, e.Each (Expr.HasSlot layout) ∧ locals.HeldBy layout frame ∧
    (((m.evaluate ⟨outer, layout⟩ e).run' frame).perform s).1 = .ok v

namespace Draft

open Expr (Reads Numbered)

variable {l : Lambda} {ids : List LocalId} {d d₀ : Draft} {pool given args : List Expr} {e : Expr}
  {next : LocalId}

/-- Expressions that come from applying a lambda to given ones, and to the results of that, over and
over. -/
inductive Applied (l : Lambda) (d₀ : Draft) (given : List Expr) : Draft → List Expr → Prop
  /-- What is given. -/
  | start : Applied l d₀ given d₀ given
  /-- One more application. -/
  | apply {d : Draft} {pool args : List Expr} {e : Expr} {next : LocalId}
      (h : Applied l d₀ given d pool) (hargs : args ⊆ pool)
      (he : (l.apply d.types args).run.run d.next = (.ok e, next)) :
      Applied l d₀ given { d.add e with next } (e :: pool)

/-- What the lambda can be applied to: expressions of a draft that only read, in which only locals of
bindings that have no body yet are free. -/
structure Pool (l : Lambda) (ids : List LocalId) (d : Draft) (pool : List Expr) : Prop where
  /-- Moves lead to the draft. -/
  formed : d.Formed
  /-- The body was built. -/
  body : l.body ∈ d.built
  /-- The bindings have no body yet. -/
  opened : ids ⊆ d.opened
  /-- The expressions were built, and only read. -/
  pool : ∀ a ∈ pool, a ∈ d.built ∧ Reads ids a

/-- The result of applying a lambda stands in place of its body. -/
theorem Pool.stands (h : Pool l ids d pool) {parameters : List ParameterDecl} {body : Expr}
    (hl : Lambda.make parameters body = .ok l) (hbody : Reads [] l.body) (hargs : args ⊆ pool)
    (he : (l.apply d.types args).run.run d.next = (.ok e, next)) :
    ∃ es, Lambda.coerceAll d.types l.parameters args = .ok es ∧ (∀ e ∈ es, Reads ids e) ∧
      Expr.Stands es ids [] d.next l.body e := by
  obtain ⟨rfl, hparameters, -⟩ := Lambda.of_make hl
  obtain ⟨hlength, es, hes, hrun⟩ := Lambda.apply_eq_ok he
  have hreads := Lambda.reads_coerceAll (fun a ha => (h.pool a (hargs ha)).2) hes
  obtain ⟨c, -, -, hstands⟩ := Expr.stands_substitute (r := []) hreads
    (Lambda.map_type_coerceAll hes hlength) hbody rfl hparameters ⟨fun _ => .any, d.next⟩ _ _ hrun
  exact ⟨es, hes, hreads, hstands⟩

/-- The result of applying the lambda is such an expression in its turn. -/
theorem Pool.apply (h : Pool l ids d pool) {parameters : List ParameterDecl} {body : Expr}
    (hl : Lambda.make parameters body = .ok l) (hbody : Reads [] l.body) (hargs : args ⊆ pool)
    (he : (l.apply d.types args).run.run d.next = (.ok e, next)) :
    Pool l ids { d.add e with next } (e :: pool) := by
  obtain ⟨es, -, -, hstands⟩ := h.stands hl hbody hargs he
  obtain ⟨types, first, hmoves⟩ := h.formed
  have hmem : body ∈ d.built := by
    obtain ⟨rfl, -, -⟩ := Lambda.of_make hl
    exact h.body
  have hmove := Move.apply hmem hl (fun a ha => (h.pool a (hargs ha)).1) he
  refine ⟨⟨types, first, hmoves.tail hmove⟩, List.mem_cons_of_mem _ h.body, h.opened, ?_⟩
  exact List.forall_mem_cons.2 ⟨⟨List.mem_cons_self .., hstands.reads⟩,
    fun a ha => ⟨List.mem_cons_of_mem _ (h.pool a ha).1, (h.pool a ha).2⟩⟩

theorem Applied.isPool (h : Applied l d₀ given d pool) (h₀ : Pool l ids d₀ given)
    {parameters : List ParameterDecl} {body : Expr} (hl : Lambda.make parameters body = .ok l)
    (hbody : Reads [] l.body) : Pool l ids d pool := by
  induction h with
  | start => exact h₀
  | apply _ hargs he ih => exact ih.apply hl hbody hargs he

/-- Evaluating a numbered expression over a frame is evaluating it with the locals in scope. -/
theorem run'_evaluate {m : Machine} {outer : List Value} {locals : Locals}
    {layout : List LocalId} {frame : List Value} (hn : e.Each (Numbered next locals.ids))
    (he : Reads locals.ids e) (hslots : e.Each (Expr.HasSlot layout))
    (hf : locals.HeldBy layout frame) :
    (m.evaluate ⟨outer, layout⟩ e).run' frame = m.evaluateIn outer locals e :=
  (Expr.follows_evaluate m outer e (fun n hmem => (hn n hmem).placed (hslots n hmem))
    he.checkScopes_eq_ok).run' hf

/-- Converted arguments have their values, whatever holds the locals in scope. -/
theorem Pool.perform_args (h : Pool l ids d pool) (hargs : args ⊆ pool) {parameters : List ParameterDecl}
    {es : List Expr} (hes : Lambda.coerceAll d.types parameters args = .ok es) {m : Machine} {s : Store}
    {outer ws : List Value} {locals : Locals} (hids : locals.ids = ids)
    (hws : List.Forall₂ (m.Gives s outer locals) es ws) :
    List.Forall₂ (fun e w => (m.evaluateIn outer locals e).perform s = (.ok w, s)) es ws := by
  subst hids
  have hreads := Lambda.reads_coerceAll (fun a ha => (h.pool a (hargs ha)).2) hes
  have hnumbered : ∀ e ∈ es, e.Each (Numbered d.next locals.ids) := by
    refine Lambda.each_coerceAll (fun _ hn => .of_isPlain hn.isPlain) (fun a ha => ?_) hes
    refine (h.formed.numbered.built a (h.pool a (hargs ha)).1).imp fun _ hn => ?_
    exact hn.mono (Nat.le_refl _) h.opened
  refine ((List.forall₂_and_left es ws).2 ⟨hreads, (List.forall₂_and_left es ws).2
    ⟨hnumbered, hws⟩⟩).imp ?_
  rintro e w ⟨he, hn, layout, frame, hslots, hf, hw⟩
  rw [run'_evaluate hn he hslots hf] at hw
  have hagree : Expr.AgreeIn m s outer locals e outer locals e := by
    refine he.agree_of_lookup fun id hid => ?_
    obtain ⟨v, hv⟩ := Locals.exists_lookup hid
    exact ⟨v, hv, hv⟩
  obtain ⟨result, hrun, -⟩ := hagree
  rw [hrun] at hw ⊢
  exact Prod.ext hw rfl

/-- `|x: int32| let y = x in y * y`. -/
def squaring : Lambda :=
  ⟨[⟨"x", .int32⟩], .letIn 0 (.parameter 0 .int32) product⟩

/-- `let u = k + p in u`, of a local `k` of an enclosing binding and a parameter `p` of the enclosing
lambda. -/
def shifted : Expr :=
  .letIn 2 (.binary .add (.readLocal 1 .int32) (.parameter 0 .int32)) (.readLocal 2 .int32)

/-- The square of an expression, with a number for its binding. -/
def squareOf (id : LocalId) (e : Expr) : Expr :=
  .letIn id e (.binary .mul (.readLocal id .int32) (.readLocal id .int32))

theorem exists_formed_shifted : ∃ d : Draft, d.Formed ∧ d.types = .empty ∧ d.next = 3 ∧
    d.opened = [1] ∧ squaring.body ∈ d.built ∧ shifted ∈ d.built := by
  have h₀ : Moves ⟨.empty, 0, [], []⟩ ⟨.empty, 0, [], []⟩ := .refl
  have h₁ := h₀.tail (.make (.parameter 0 .int32))
  have h₂ := h₁.tail (.draw (List.mem_cons_self ..))
  have hmul : Expr.mkBinary .empty .mul (.readLocal 0 .int32) (.readLocal 0 .int32) =
      .ok product := rfl
  have h₃ := h₂.tail (.make (.binary (List.mem_cons_self ..) (List.mem_cons_self ..) hmul))
  have h₄ := h₃.tail (.bind (List.mem_singleton_self _) (List.mem_cons_self ..))
  -- the enclosing binding is begun, and has no body yet
  have h₅ := h₄.tail (.make (.zero .int32))
  have h₆ := h₅.tail (.draw (List.mem_cons_self ..))
  have hadd : Expr.mkBinary .empty .add (.readLocal 1 .int32) (.parameter 0 .int32) =
      .ok (.binary .add (.readLocal 1 .int32) (.parameter 0 .int32)) := rfl
  have h₇ := h₆.tail (.make (.binary (List.mem_cons_self ..) (by simp [add, draw, close]) hadd))
  have h₈ := h₇.tail (.draw (List.mem_cons_self ..))
  have h₉ := h₈.tail (.bind (List.mem_cons_self ..) (List.mem_cons_self ..))
  refine ⟨_, ⟨_, _, h₉⟩, rfl, rfl, rfl, ?_, List.mem_cons_self ..⟩
  simp [squaring, add, draw, close]

end Draft
end Reshape
