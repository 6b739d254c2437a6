import Reshape.Proofs.Expr.Numbering
import Reshape.Proofs.Expr.Preservation

/-!
# Building, one binding for each number

`Draft.Step` lets a number that was drawn be bound any number of times, which typing does not mind.
Binding a local draws its number, builds the body, and binds the number once: here a number that was
bound is closed (`Draft.Move`), and parts of what was built can be taken out and used again.  The
expressions of a draft that moves lead to are numbered (`Draft.Formed.numbered`): so lambdas over them
scope lexically, although their locals share slots (`Draft.Formed.scopes_lexically`).
-/

namespace Reshape

/-! ## Applying lambdas -/

namespace Lambda

/-- What a lambda is applied to is converted, and then takes the place of the parameters. -/
theorem apply_eq_ok {t : TypeTable} {l : Lambda} {args : List Expr} {e : Expr} {n next : LocalId}
    (h : (l.apply t args).run.run n = (.ok e, next)) :
    args.length = l.parameters.length ∧ ∃ es, coerceAll t l.parameters args = .ok es ∧
      (l.body.rebind t es).run.run n = (.ok e, next) := by
  simp only [apply] at h
  by_cases harity : args.length ≠ l.parameters.length
  · rw [if_pos harity] at h
    cases h
  · rw [if_neg harity] at h
    obtain ⟨es, n', hes, h⟩ := run_bind_eq_ok.1 h
    refine ⟨not_not.1 harity, es, ?_⟩
    cases hcoerce : coerceAll t l.parameters args with
    | error e =>
      rw [hcoerce] at hes
      cases hes
    | ok es' =>
      rw [hcoerce] at hes
      cases hes
      exact ⟨rfl, h⟩

/-- Each converted argument is one of the arguments, converted. -/
theorem exists_of_mem_coerceAll {t : TypeTable} {parameters : List ParameterDecl} {args es : List Expr}
    (h : coerceAll t parameters args = .ok es) {e : Expr} (he : e ∈ es) :
    ∃ a ∈ args, ∃ type, a.coerce t type = .ok e := by
  induction parameters generalizing args es with
  | nil => cases args <;> cases h <;> simp at he
  | cons p parameters ih =>
    cases args with
    | nil =>
      cases h
      simp at he
    | cons arg args =>
      obtain ⟨first, hfirst, h⟩ := bind_eq_ok.1 h
      obtain ⟨rest, hrest, h⟩ := bind_eq_ok.1 h
      cases h
      rcases List.mem_cons.1 he with rfl | he
      · exact ⟨arg, List.mem_cons_self .., p.type, hfirst⟩
      · obtain ⟨a, ha, hcoerce⟩ := ih hrest he
        exact ⟨a, List.mem_cons_of_mem _ ha, hcoerce⟩

theorem each_coerceAll {P : Expr → Prop} (hP : ∀ n : Expr, n.IsInner → P n) {t : TypeTable}
    {parameters : List ParameterDecl} {args es : List Expr} (ha : ∀ a ∈ args, a.Each P)
    (h : coerceAll t parameters args = .ok es) : ∀ e ∈ es, e.Each P := by
  intro e he
  obtain ⟨a, hmem, type, hcoerce⟩ := exists_of_mem_coerceAll h he
  exact Expr.each_coerce hP (ha a hmem) hcoerce

end Lambda

namespace Draft

open Expr (Context Numbered)

/-- A number that was drawn gets its body, and is not bound again. -/
def close (d : Draft) (id : LocalId) (value body : Expr) : Draft where
  types := d.types
  next := d.next
  drawn := d.drawn.filter (·.1 ≠ id)
  built := .letIn id value body :: d.built

/-- One move of building: a step, but a number is bound once, and parts can be used again. -/
inductive Move : Draft → Draft → Prop
  /-- A checked constructor succeeds. -/
  | make {d : Draft} {e : Expr} (h : d.Makes e) : Move d (d.add e)
  /-- A part of an expression is used on its own. -/
  | part {d : Draft} {n e : Expr} (he : e ∈ d.built) (hn : n ∈ e.nodes) : Move d (d.add n)
  /-- A local binding is begun. -/
  | draw {d : Draft} {value : Expr} (hv : value ∈ d.built) : Move d (d.draw value)
  /-- A local binding gets its body. -/
  | bind {d : Draft} {id : LocalId} {value body : Expr} (hid : (id, value) ∈ d.drawn)
      (hb : body ∈ d.built) : Move d (d.close id value body)
  /-- Parameters are replaced by arguments. -/
  | rebind {d : Draft} {e e' : Expr} {args : List Expr} {next : LocalId} (he : e ∈ d.built)
      (ha : args ⊆ d.built) (h : (e.rebind d.types args).run.run d.next = (.ok e', next)) :
      Move d { d.add e' with next }
  /-- A lambda is applied. -/
  | apply {d : Draft} {parameters : List ParameterDecl} {body e : Expr} {l : Lambda}
      {args : List Expr} {next : LocalId} (hb : body ∈ d.built)
      (hl : Lambda.make parameters body = .ok l) (ha : args ⊆ d.built)
      (h : (l.apply d.types args).run.run d.next = (.ok e, next)) : Move d { d.add e with next }
  /-- Building fails elsewhere, and the numbers that were drawn stay used. -/
  | skip {d : Draft} {next : LocalId} (h : d.next ≤ next) : Move d { d with next }
  /-- More types are defined. -/
  | define {d : Draft} {types : TypeTable} (h : d.types.Extends types) : Move d { d with types }

/-- Any number of moves. -/
abbrev Moves : Draft → Draft → Prop := Relation.ReflTransGen Move

/-- A draft that moves lead to, from one with no expressions. -/
def Formed (d : Draft) : Prop :=
  ∃ types next, Moves ⟨types, next, [], []⟩ d

variable {d d' : Draft}

/-! ## Typing -/

/-- A move keeps the draft well typed, in a later context. -/
theorem Move.wellTyped {c : Context} (h : Move d d') (hd : d.WellTyped c) : ∃ c', d'.WellTyped c' := by
  cases h with
  | make h => exact (Step.make h).wellTyped hd
  | part he hn => exact ⟨c, hd.add ((hd.built _ he).node hn)⟩
  | draw hv => exact (Step.draw hv).wellTyped hd
  | bind hid hb =>
    obtain ⟨c', hc'⟩ := (Step.bind hid hb).wellTyped hd
    exact ⟨c', hc'.next_eq, hc'.built, fun p hp => hc'.drawn p (List.mem_of_mem_filter hp)⟩
  | rebind he ha h => exact (Step.rebind he ha h).wellTyped hd
  | apply hb hl ha h => exact (Step.apply hb hl ha h).wellTyped hd
  | skip h => exact (Step.skip h).wellTyped hd
  | define h => exact (Step.define h).wellTyped hd

theorem Formed.wellTyped (h : d.Formed) : ∃ c, d.WellTyped c := by
  obtain ⟨types, next, hmoves⟩ := h
  induction hmoves with
  | refl => exact ⟨⟨fun _ => .any, next⟩, rfl, by simp, by simp⟩
  | tail _ hmove ih =>
    obtain ⟨c, hc⟩ := ih
    exact hmove.wellTyped hc

/-! ## Numbering -/

/-- The numbers of bindings that were begun and have no body yet. -/
abbrev opened (d : Draft) : List LocalId := d.drawn.map Prod.fst

/-- Expressions are numbered: numbers are below the next one, each is bound once, and those of bindings
that have no body yet are not bound. -/
structure NumberedBy (d : Draft) : Prop where
  /-- Numbers of bindings without a body were drawn. -/
  opened : ∀ id ∈ d.opened, id < d.next
  /-- What was built is numbered. -/
  built : ∀ e ∈ d.built, e.Each (Numbered d.next d.opened)
  /-- So are the values of bindings that have no body yet. -/
  drawn : ∀ p ∈ d.drawn, p.2.Each (Numbered d.next d.opened)

theorem NumberedBy.add (hd : d.NumberedBy) {e : Expr} (he : e.Each (Numbered d.next d.opened)) :
    (d.add e).NumberedBy :=
  ⟨hd.opened, List.forall_mem_cons.2 ⟨he, hd.built⟩, hd.drawn⟩

theorem NumberedBy.later (hd : d.NumberedBy) {next : LocalId} (hnext : d.next ≤ next) :
    NumberedBy { d with next } := by
  have hmono : ∀ e : Expr, e.Each (Numbered d.next d.opened) → e.Each (Numbered next d.opened) :=
    fun e he => he.imp fun _ hn => hn.mono hnext (List.Subset.refl _)
  exact ⟨fun id hid => Nat.lt_of_lt_of_le (hd.opened id hid) hnext,
    fun e he => hmono e (hd.built e he), fun p hp => hmono p.2 (hd.drawn p hp)⟩

/-- The next number is in scope, and is bound nowhere yet. -/
theorem NumberedBy.draw (hd : d.NumberedBy) {value : Expr} (hv : value ∈ d.built) :
    (d.draw value).NumberedBy := by
  have hcons : ∀ e : Expr, e.Each (Numbered d.next d.opened) →
      e.Each (Numbered (d.next + 1) (d.next :: d.opened)) :=
    fun e he => he.imp fun _ hn => hn.cons (Nat.le_succ _) (Nat.le_refl _)
  refine ⟨?_, ?_, ?_⟩
  · exact List.forall_mem_cons.2
      ⟨Nat.lt_succ_self _, fun id hid => Nat.lt_succ_of_lt (hd.opened id hid)⟩
  · refine List.forall_mem_cons.2 ⟨?_, fun e he => hcons e (hd.built e he)⟩
    refine Expr.each_readLocal.2 ⟨?_, trivial, fun _ _ h => h⟩
    rintro other rfl
    exact Nat.lt_succ_self _
  · exact List.forall_mem_cons.2
      ⟨hcons value (hd.built value hv), fun p hp => hcons p.2 (hd.drawn p hp)⟩

/-- A number that has got its body is bound by this binding, and is no longer free to be bound. -/
theorem NumberedBy.close (hd : d.NumberedBy) {id : LocalId} {value body : Expr}
    (hid : (id, value) ∈ d.drawn) (hb : body ∈ d.built) : (d.close id value body).NumberedBy := by
  have hsub : (d.close id value body).opened ⊆ d.opened :=
    ((List.filter_sublist (l := d.drawn)).map Prod.fst).subset
  have hmem : id ∈ d.opened := List.mem_map.2 ⟨_, hid, rfl⟩
  have hclosed : id ∉ (d.close id value body).opened := by
    intro hmem
    obtain ⟨p, hp, rfl⟩ := List.mem_map.1 hmem
    simpa using List.of_mem_filter hp
  have hmono : ∀ e : Expr, e.Each (Numbered d.next d.opened) →
      e.Each (Numbered d.next (d.close id value body).opened) :=
    fun e he => he.imp fun _ hn => hn.mono (Nat.le_refl _) hsub
  refine ⟨fun other hother => hd.opened other (hsub hother), ?_, fun p hp => ?_⟩
  · refine List.forall_mem_cons.2 ⟨Expr.each_letIn.2 ⟨⟨?_, ?_, ?_⟩, ?_, ?_⟩, fun e he => ?_⟩
    · rintro other rfl
      exact hd.opened _ hmem
    · exact fun n hn => (hd.built body hb n hn).free id hmem
    · rintro other hother rfl
      exact hclosed hother
    · exact hmono value (hd.drawn _ hid)
    · exact hmono body (hd.built body hb)
    · exact hmono e (hd.built e he)
  · exact hmono p.2 (hd.drawn p (List.mem_of_mem_filter hp))

/-- Substitution into an expression of the draft keeps the draft numbered. -/
theorem NumberedBy.substitute (hd : d.NumberedBy) {e e' : Expr} {args : List Expr} {next : LocalId}
    (he : e ∈ d.built) (ha : ∀ a ∈ args, a.Each (Numbered d.next d.opened))
    (h : (e.rebind d.types args).run.run d.next = (.ok e', next)) :
    NumberedBy { d.add e' with next } := by
  have hsupplied : Expr.Supplied args [] d.opened d.next := ⟨ha, hd.opened, by simp⟩
  have hbelow : e.Below d.next := (hd.built e he).imp fun _ hn => hn.below
  obtain ⟨c, hc, rfl, hnumbered⟩ :=
    Expr.numbered_substitute (c := ⟨fun _ => .any, d.next⟩) hsupplied e hbelow _ _ h
  exact (hd.later hc.next_le).add hnumbered

/-- A move keeps the draft numbered. -/
theorem Move.numbered (h : Move d d') (hd : d.NumberedBy) : d'.NumberedBy := by
  cases h with
  | make h => exact hd.add (h.each (fun _ => .of_isPlain) hd.built)
  | part he hn => exact hd.add ((hd.built _ he).node hn)
  | draw hv => exact hd.draw hv
  | bind hid hb => exact hd.close hid hb
  | rebind he ha h => exact hd.substitute he (fun a hmem => hd.built a (ha hmem)) h
  | apply hb hl ha h =>
    obtain ⟨rfl, -, -⟩ := Lambda.of_make hl
    obtain ⟨-, es, hes, h⟩ := Lambda.apply_eq_ok h
    refine hd.substitute hb (Lambda.each_coerceAll (fun _ hn => .of_isPlain hn.isPlain) ?_ hes) h
    exact fun a hmem => hd.built a (ha hmem)
  | skip h => exact hd.later h
  | define h => exact ⟨hd.opened, hd.built, hd.drawn⟩

theorem Formed.numbered (h : d.Formed) : d.NumberedBy := by
  obtain ⟨types, next, hmoves⟩ := h
  induction hmoves with
  | refl => exact ⟨by simp [opened], by simp, by simp⟩
  | tail _ hmove ih => exact hmove.numbered ih

/-! ## Local bindings -/

/-- A local binding is built by moves if its body is, and the number is still open then. -/
theorem moves_bindIn {value e : Expr} {body : Expr → Build Expr} (hv : value ∈ d.built)
    (hmoves : Moves (d.draw value) d') (hopen : (d.next, value) ∈ d'.drawn) (he : e ∈ d'.built)
    (hbody : (body (.readLocal d.next value.type)).run.run (d.next + 1) = (.ok e, d'.next)) :
    (Expr.bindIn value body).run.run d.next = (.ok (.letIn d.next value e), d'.next) ∧
      Moves d (d'.close d.next value e) :=
  ⟨run_bindIn hbody, (hmoves.head (.draw hv)).tail (.bind hopen he)⟩

/-! ## Lexical scoping -/

/-- `let z = (let y = x + 1 in y * y) in z + (let y = x + 1 in y * y)`: the inner binding is used twice,
so both copies have the number 0. -/
def cloned : Expr :=
  .letIn 1 (.letIn 0 successor product)
    (.binary .add (.readLocal 1 .int32) (.letIn 0 successor product))

theorem exists_formed_cloned : ∃ d : Draft, d.Formed ∧ cloned ∈ d.built := by
  have h₀ : Moves ⟨.empty, 0, [], []⟩ ⟨.empty, 0, [], []⟩ := .refl
  have h₁ := h₀.tail (.make (.parameter 0 .int32))
  have hone : TypeTable.empty.Holds (.int32 1) := by simp [TypeTable.Holds, Value.refs]
  have h₂ := h₁.tail (.make (.literal hone))
  have hadd : Expr.mkBinary .empty .add (.parameter 0 .int32) (.constant (.int32 1) .int32) =
      .ok successor := rfl
  have h₃ := h₂.tail (.make (.binary (by simp [add]) (List.mem_cons_self ..) hadd))
  have h₄ := h₃.tail (.draw (List.mem_cons_self ..))
  have hmul : Expr.mkBinary .empty .mul (.readLocal 0 .int32) (.readLocal 0 .int32) =
      .ok product := rfl
  have h₅ := h₄.tail (.make (.binary (List.mem_cons_self ..) (List.mem_cons_self ..) hmul))
  have h₆ := h₅.tail (.bind (List.mem_singleton_self _) (List.mem_cons_self ..))
  -- the inner binding is the value of the outer one, and a part of its body too
  have h₇ := h₆.tail (.draw (List.mem_cons_self ..))
  have hsum : Expr.mkBinary .empty .add (.readLocal 1 .int32) (.letIn 0 successor product) =
      .ok (.binary .add (.readLocal 1 .int32) (.letIn 0 successor product)) := rfl
  have h₈ := h₇.tail (.make (.binary (List.mem_cons_self ..)
    (List.mem_cons_of_mem _ (List.mem_cons_self ..)) hsum))
  have h₉ := h₈.tail (.bind (List.mem_cons_self ..) (List.mem_cons_self ..))
  exact ⟨_, ⟨_, _, h₉⟩, List.mem_cons_self ..⟩

end Draft
end Reshape
