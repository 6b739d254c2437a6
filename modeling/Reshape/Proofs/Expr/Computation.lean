import Reshape.Accessor.Synthesis
import Reshape.Proofs.Expr.Arithmetic
import Reshape.Proofs.Expr.Construction
import Reshape.Proofs.Expr.Slots
import Reshape.Proofs.Store.Equality
import Reshape.Proofs.Store.Slots

/-!
# What expressions compute

An expression computes a value if its evaluation yields the value and leaves the store alone, in the
store at hand and in every larger one (`Evaluation.Computes`); only the frame of local bindings
changes.  It denotes the value if the value also is of its type (`Machine.Denotes`).  The checked
constructors make expressions that denote what they should: a conversion denotes the converted value,
and implicit conversions never fail (`Machine.Denotes.coerce`).
-/

namespace Reshape

theorem Store.Includes.held {s s' : Store} (h : s.Includes s') {ref : ObjectRef}
    (hlive : s.Live (.object ref)) (member : MemberRef) :
    s'.held? ref member = s.held? ref member := by
  rw [Store.held?, h.slots hlive, Store.held?]

/-! ## Computing -/

namespace Evaluation

variable {α β : Type} {s : Store} {fits : List Value → Prop}

/-- In frames that fit, evaluation yields the value and leaves the store and larger ones alone, and
the frame fits afterwards. -/
def Computes (s : Store) (fits : List Value → Prop) (x : Evaluation α) (v : α) : Prop :=
  ∀ s', s.Includes s' → ∀ frame, fits frame → ∃ frame', fits frame' ∧
    (x.run frame).perform s' = (.ok (v, frame'), s')

/-- As `Computes`, but only as long as the static slots hold what they held. -/
def Settles (s : Store) (fits : List Value → Prop) (x : Evaluation α) (v : α) : Prop :=
  ∀ s', s.Widens s' → ∀ frame, fits frame → ∃ frame', fits frame' ∧
    (x.run frame).perform s' = (.ok (v, frame'), s')

theorem Computes.settles {x : Evaluation α} {v : α} (h : Computes s fits x v) : Settles s fits x v :=
  fun s' hs' => h s' hs'.includes

theorem Computes.pure (v : α) : Computes s fits (pure v) v :=
  fun _ _ frame hf => ⟨frame, hf, rfl⟩

/-- One step after the other, in whatever store. -/
theorem exists_of_steps {s' : Store} {x : Evaluation α} {f : α → Evaluation β} {v : α} {w : β}
    (hx : ∀ frame, fits frame → ∃ frame', fits frame' ∧
      (x.run frame).perform s' = (.ok (v, frame'), s'))
    (hf : ∀ frame, fits frame → ∃ frame', fits frame' ∧
      ((f v).run frame).perform s' = (.ok (w, frame'), s')) (frame : List Value) (hframe : fits frame) :
    ∃ frame', fits frame' ∧ ((x >>= f).run frame).perform s' = (.ok (w, frame'), s') := by
  obtain ⟨frame₁, hframe₁, hv⟩ := hx frame hframe
  obtain ⟨frame₂, hframe₂, hw⟩ := hf frame₁ hframe₁
  refine ⟨frame₂, hframe₂, ?_⟩
  rw [StateT.run_bind, Action.perform_bind_ok hv]
  exact hw

theorem Computes.bind {x : Evaluation α} {f : α → Evaluation β} {v : α} {w : β}
    (hx : Computes s fits x v) (hf : Computes s fits (f v) w) : Computes s fits (x >>= f) w :=
  fun s' hs' => exists_of_steps (hx s' hs') (hf s' hs')

theorem Settles.bind {x : Evaluation α} {f : α → Evaluation β} {v : α} {w : β}
    (hx : Settles s fits x v) (hf : Settles s fits (f v) w) : Settles s fits (x >>= f) w :=
  fun s' hs' => exists_of_steps (hx s' hs') (hf s' hs')

/-- An action that leaves the store alone. -/
theorem Computes.lift {a : Action α} {v : α}
    (h : ∀ s', s.Includes s' → a.perform s' = (.ok v, s')) :
    Computes s fits (liftM a) v := by
  intro s' hs' frame hframe
  refine ⟨frame, hframe, ?_⟩
  have hlift : (liftM a : Evaluation α).run frame = a >>= fun v => Pure.pure (v, frame) := rfl
  rw [hlift, Action.perform_bind_ok (h s' hs')]
  rfl

/-- A conversion that succeeds. -/
theorem Computes.ofCast {r : Except CastError α} {v : α} (h : r = .ok v) :
    Computes s fits (liftM (Action.ofCast r)) v :=
  Computes.lift fun _ _ => by rw [h]; rfl

end Evaluation

namespace Scope

/-- The frame has all slots. -/
def Frame (scope : Scope) (frame : List Value) : Prop :=
  frame.length = scope.layout.length

/-- The frame has all slots, and holds the value of a local binding. -/
def FrameWith (scope : Scope) (id : LocalId) (v : Value) (frame : List Value) : Prop :=
  scope.Frame frame ∧ frame[scope.layout.idxOf id]? = some v

end Scope

namespace Machine

open Evaluation (Computes)

variable {m : Machine} {scope : Scope} {s : Store} {fits : List Value → Prop} {t : TypeTable}

/-- Evaluating the expression computes the value, which is of the expression's type. -/
structure Denotes (m : Machine) (scope : Scope) (s : Store) (fits : List Value → Prop) (e : Expr)
    (v : Value) : Prop where
  /-- The value is computed. -/
  computes : Computes s fits (m.evaluate scope e) v
  /-- It is of the type. -/
  conforms : m.types.conforms e.type v = true

/-! ## Leaves -/

theorem denotes_constant {v : Value} {type : ValueType} (h : m.types.conforms type v = true) :
    m.Denotes scope s fits (.constant v type) v := by
  refine ⟨?_, h⟩
  rw [evaluate]
  exact .pure v

/-- A typed literal is the value, converted to the type. -/
theorem typedLiteral_eq_ok (ht : t.Extends m.types) {v : Value} {type : ValueType} {e : Expr}
    (h : Expr.typedLiteral t v type = .ok e) : ∃ w, m.types.cast type v = .ok w ∧ e = .constant w type := by
  obtain ⟨w, hcast, rfl⟩ := Expr.typedLiteral_eq_ok.1 h
  exact ⟨w, TypeTable.cast_mono ht hcast, rfl⟩

theorem denotes_typedLiteral (ht : t.Extends m.types) {v : Value} {type : ValueType} {e : Expr}
    (h : Expr.typedLiteral t v type = .ok e) : ∃ w, m.types.cast type v = .ok w ∧
      m.Denotes scope s fits e w ∧ e.type = type := by
  obtain ⟨w, hcast, rfl⟩ := typedLiteral_eq_ok ht h
  exact ⟨w, hcast, denotes_constant (TypeTable.conforms_of_cast hcast), rfl⟩

theorem denotes_zero (type : ValueType) : m.Denotes scope s fits (.zero type) type.zero := by
  refine ⟨?_, TypeTable.conforms_zero type⟩
  rw [evaluate]
  exact .pure _

theorem denotes_parameter {place : Nat} {type : ValueType} {v : Value}
    (harg : scope.args[place]? = some v) (h : m.types.conforms type v = true) :
    m.Denotes scope s fits (.parameter place type) v := by
  refine ⟨?_, h⟩
  rw [evaluate, harg]
  exact .pure v

theorem denotes_readLocal {id : LocalId} {type : ValueType} {v : Value}
    (h : m.types.conforms type v = true) :
    m.Denotes scope s (scope.FrameWith id v) (.readLocal id type) v := by
  refine ⟨fun s' _ frame hframe => ⟨frame, hframe, ?_⟩, h⟩
  have hrun : (m.evaluate scope (.readLocal id type)).run frame =
      pure (frame[scope.layout.idxOf id]?.getD .null, frame) := by
    rw [evaluate]
    rfl
  rw [hrun, hframe.2]
  rfl

/-- A literal denotes no other value. -/
theorem Denotes.eq_of_constant {u v : Value} {type : ValueType}
    (h : m.Denotes scope s fits (.constant u type) v) {frame : List Value} (hf : fits frame) :
    v = u := by
  obtain ⟨frame', -, hrun⟩ := h.computes s (.refl s) frame hf
  have hliteral : (m.evaluate scope (.constant u type)).run frame = pure (u, frame) := by
    rw [evaluate]
    rfl
  rw [hliteral] at hrun
  cases hrun
  rfl

/-! ## Conversions -/

/-- A conversion by an implicit rule denotes the converted value. -/
theorem Denotes.convertBy (ht : t.Extends m.types) {e : Expr} {v : Value}
    (h : m.Denotes scope s fits e v) {target : ValueType} {rule : ConversionRule}
    (hrule : t.implicitRule? e.type target = some rule) :
    ∃ w, m.types.cast target v = .ok w ∧ m.Denotes scope s fits (e.convertBy t rule target) w := by
  obtain ⟨w, hw⟩ := TypeTable.cast_of_implicitRule? (TypeTable.implicitRule?_mono ht hrule) h.conforms
  refine ⟨w, hw, ?_⟩
  have hconf := TypeTable.conforms_of_cast hw
  have hconvert : m.Denotes scope s fits (.convert rule e target) w := by
    refine ⟨?_, hconf⟩
    rw [evaluate]
    exact h.computes.bind (.ofCast hw)
  unfold Expr.convertBy
  split
  · have heq := TypeTable.eq_of_implicitRule?_identity hrule
    rw [← heq, TypeTable.cast_of_conforms h.conforms] at hw
    cases hw
    exact h
  · split
    · rename_i u type _ _ w' hw'
      have hcast := TypeTable.cast_mono ht hw'
      refine ⟨fun s' hs' frame hframe => ?_, hconf⟩
      -- the literal is the value, so both conversions are the same
      obtain rfl := h.eq_of_constant hframe
      rw [hcast] at hw
      cases hw
      exact ⟨frame, hframe, by rw [evaluate]; rfl⟩
    · exact hconvert
  · exact hconvert

theorem Denotes.coerce (ht : t.Extends m.types) {e e' : Expr} {v : Value}
    (h : m.Denotes scope s fits e v) {target : ValueType} (hc : e.coerce t target = .ok e') :
    ∃ w, m.types.cast target v = .ok w ∧ m.Denotes scope s fits e' w ∧ e'.type = target := by
  obtain ⟨rule, hrule, rfl⟩ := Expr.convertTo_eq_ok hc
  obtain ⟨w, hw, hdenotes⟩ := h.convertBy ht hrule
  exact ⟨w, hw, hdenotes, Expr.type_coerce hc⟩

/-! ## Scopes and operators -/

/-- A local binding denotes what its body denotes in the frame that holds the value. -/
theorem Denotes.letIn {value body : Expr} {v w : Value} (hv : m.Denotes scope s scope.Frame value v)
    {id : LocalId} (hid : id ∈ scope.layout)
    (hb : m.Denotes scope s (scope.FrameWith id v) body w) :
    m.Denotes scope s scope.Frame (.letIn id value body) w := by
  refine ⟨?_, hb.conforms⟩
  rw [evaluate]
  refine hv.computes.bind fun s' hs' frame hframe => ?_
  have hlength : (frame.set (scope.layout.idxOf id) v).length = scope.layout.length := by
    rw [List.length_set]
    exact hframe
  have hplace : scope.layout.idxOf id < frame.length := by
    rw [hframe]
    exact List.idxOf_lt_length_of_mem hid
  obtain ⟨frame', hframe', hrun⟩ := hb.computes s' hs' (frame.set (scope.layout.idxOf id) v)
    ⟨hlength, List.getElem?_set_self hplace⟩
  refine ⟨frame', hframe'.1, ?_⟩
  rw [StateT.run_bind, StateT.run_modify, pure_bind]
  exact hrun

/-- A comparison denotes whether the values are equal in the store at hand. -/
theorem Denotes.equal (hs : s.WellTyped m.types) {l r : Expr} {v w : Value}
    (hl : m.Denotes scope s fits l v) (hr : m.Denotes scope s fits r w) (hv : s.Live v)
    (hw : s.Live w) : m.Denotes scope s fits (.binary .eq l r) (.bool (s.sameValue v w)) := by
  refine ⟨?_, rfl⟩
  rw [evaluate_strict m scope rfl]
  refine hl.computes.bind (hr.computes.bind fun s' hs' frame hframe => ⟨frame, hframe, ?_⟩)
  have hrun : (operate .eq v w).run frame =
      (get >>= fun seen => pure (.bool (seen.sameValue v w), frame) :
        Action (Value × List Value)) := rfl
  rw [hrun, Action.perform_bind_ok (Action.perform_get s'), hs'.sameValue hs hv hw]
  rfl

/-- A conditional denotes what the chosen branch denotes. -/
theorem Denotes.conditional {test thenExpr otherwise : Expr} {b : Bool} {v : Value}
    (ht : m.Denotes scope s fits test (.bool b)) (htype : thenExpr.type = otherwise.type)
    (h : m.Denotes scope s fits (if b then thenExpr else otherwise) v) :
    m.Denotes scope s fits (.conditional test thenExpr otherwise) v := by
  have hconf := h.conforms
  refine ⟨?_, ?_⟩
  · rw [evaluate]
    refine ht.computes.bind ?_
    have htruth : truth (.bool b) = pure b := rfl
    rw [htruth, pure_bind]
    cases b with
    | true => exact h.computes
    | false => exact h.computes
  · cases b with
    | true => exact hconf
    | false =>
      simp only [Bool.false_eq_true, if_false, ← htype] at hconf
      exact hconf

/-! ## Members -/

theorem cast_object_eq {owner : TypeId} {v w : Value} (h : t.cast (.object owner) v = .ok w) :
    w = v ∧ ∀ ref, v = .object ref → t.isSubtype ref.type owner = true := by
  cases v <;> simp only [TypeTable.cast, reduceCtorEq] at h
  case null =>
    cases h
    exact ⟨rfl, by simp⟩
  case object ref =>
    split at h
    · rename_i hsub
      cases h
      refine ⟨rfl, ?_⟩
      rintro _ ⟨⟩
      exact hsub
    · cases h

/-- A receiver denotes the same value after its conversion, and an object has the member's owner
among its types. -/
theorem Denotes.upcast (ht : t.Extends m.types) {receiver e : Expr} {v : Value}
    (h : m.Denotes scope s fits receiver v) {owner : TypeId} {member : String}
    (hc : Expr.upcastReceiver t receiver owner member = .ok e) :
    m.Denotes scope s fits e v ∧
      ∀ ref, v = .object ref → m.types.isSubtype ref.type owner = true := by
  obtain ⟨rule, hrule, rfl⟩ := Expr.upcastReceiver_eq_ok hc
  obtain ⟨w, hw, hdenotes⟩ := h.convertBy ht hrule
  obtain ⟨rfl, hsub⟩ := cast_object_eq hw
  exact ⟨hdenotes, hsub⟩

/-- Evaluating a receiver that denotes an object. -/
theorem Denotes.evaluateReceiver {e : Expr} {ref : ObjectRef}
    (h : m.Denotes scope s fits e (.object ref)) (member : String) :
    Computes s fits (m.evaluateReceiver scope member (some e)) (some ref) := by
  rw [Machine.evaluateReceiver]
  exact h.computes.bind (.pure (some ref))

/-- Reading a member gives its type. -/
theorem type_readMember {receiver? : Option Expr} {member : MemberRef} {e : Expr}
    (ht : t.Extends m.types) (hm : m.types.Declared) (hmember : t.HasMember member)
    (h : Accessor.readMember t receiver? member = .ok e) : e.type = member.type := by
  cases member with
  | field f =>
    obtain ⟨bound, -, h⟩ := bind_eq_ok.1 h
    cases h
    rfl
  | property p =>
    have hmember' := hmember.mono ht
    simp only [Accessor.readMember] at h
    split at h
    · rename_i g hg
      obtain ⟨-, -, hgetter⟩ :=
        TypeTable.HasProperty.getter hmember' (hm.sound _ hmember'.owner_lt) hg
      obtain ⟨bound, -, h⟩ := bind_eq_ok.1 h
      obtain ⟨es, -, h⟩ := bind_eq_ok.1 h
      cases h
      exact (congrArg (·.getD .any) hgetter.result : g.method.resultType = p.property.type)
    · cases h

/-- What reading a member of an object means: the member's slot holds the value, and the expression
denotes it. -/
structure Reads (m : Machine) (scope : Scope) (s : Store) (fits : List Value → Prop)
    (ref : ObjectRef) (member : MemberRef) (e : Expr) (v : Value) : Prop where
  /-- The slot holds the value. -/
  held : s.held? ref member = some v
  /-- The value is in the store. -/
  live : s.Live v
  /-- The expression denotes it. -/
  denotes : m.Denotes scope s fits e v

/-- Reading a member with a slot from an object denotes what the slot holds. -/
theorem Denotes.readMember (ht : t.Extends m.types) (hm : m.types.Declared)
    (hs : s.WellTyped m.types) {member : MemberRef} (hmember : t.HasMember member)
    (hslot : member.backingSlot?.isSome = true) {receiver e : Expr} {ref : ObjectRef}
    (hr : m.Denotes scope s fits receiver (.object ref)) (hlive : s.Live (.object ref))
    (h : Accessor.readMember t (some receiver) member = .ok e) :
    ∃ v, m.Reads scope s fits ref member e v := by
  have hmember' := hmember.mono ht
  have hstatic : member.isStatic = false := MemberRef.isStatic_of_backingSlot? hslot
  -- the receiver is converted to the owner, of which the object is an instance
  have hbound : ∀ {bound : Option Expr} {name : String}, Expr.bindReceiver t (some receiver)
      member.owner false name = .ok bound → ∃ e', bound = some e' ∧
        m.Denotes scope s fits e' (.object ref) ∧
          m.types.isSubtype ref.type member.owner = true := by
    intro bound name hbound
    obtain ⟨e', he', rfl⟩ := map_eq_ok.1 hbound
    obtain ⟨hdenotes, hsub⟩ := hr.upcast ht he'
    exact ⟨e', rfl, hdenotes, hsub ref rfl⟩
  cases member with
  | field f =>
    obtain ⟨bound, hb, h⟩ := bind_eq_ok.1 h
    cases h
    rw [show f.field.isStatic = false from hstatic] at hb
    obtain ⟨e', rfl, hdenotes, hsub⟩ := hbound hb
    obtain ⟨v, hheld, hconf, hvlive⟩ := hs.held hm.sound hmember' hslot hlive hsub
    refine ⟨v, hheld, hvlive, ?_, hconf⟩
    rw [evaluate]
    refine (hdenotes.evaluateReceiver f.field.name).bind (.lift fun s' hs' => ?_)
    exact perform_loadField ((hs'.held hlive _).trans hheld)
  | property p =>
    simp only [Accessor.readMember] at h
    split at h
    · rename_i g hg
      have hsound := hm.sound _ hmember'.owner_lt
      obtain ⟨-, howner, hgetter⟩ := TypeTable.HasProperty.getter hmember' hsound hg
      obtain ⟨bound, hb, h⟩ := bind_eq_ok.1 h
      obtain ⟨es, hes, h⟩ := bind_eq_ok.1 h
      cases h
      rw [hgetter.parameters] at hes
      have hnone : es = [] := by
        cases hes
        rfl
      subst hnone
      rw [howner, hgetter.isStatic, show p.property.isStatic = false from hstatic] at hb
      obtain ⟨e', rfl, hdenotes, hsub⟩ := hbound hb
      obtain ⟨v, hheld, hconf, hvlive⟩ := hs.held hm.sound hmember' hslot hlive hsub
      have hresult : g.method.resultType = p.property.type := by
        rw [Method.resultType, hgetter.result, Option.getD_some]
      have hcast : m.types.cast g.method.resultType v = .ok v := by
        rw [hresult]
        exact TypeTable.cast_of_conforms hconf
      have hconf' : m.types.conforms g.method.resultType v = true := by
        rw [hresult]
        exact hconf
      refine ⟨v, hheld, hvlive, ?_, hconf'⟩
      rw [evaluate]
      refine (hdenotes.evaluateReceiver g.method.name).bind ?_
      rw [evaluateAll, pure_bind]
      refine Computes.bind (.lift fun s' hs' => ?_) (.ofCast hcast)
      exact perform_getter hmember' hsound hg ((hs'.held hlive _).trans hheld)
    · cases h

/-- A member of null is null, and a member of an object is what its slot holds. -/
theorem Denotes.navigate (ht : t.Extends m.types) (hm : m.types.Declared)
    (hs : s.WellTyped m.types) {member : MemberRef} (hmember : t.HasMember member)
    (hslot : member.backingSlot?.isSome = true) {receiver e : Expr} {v : Value}
    (hr : m.Denotes scope s fits receiver v) (hlive : s.Live v)
    (h : Expr.mkNavigate t receiver member = .ok e) :
    v = .null ∧ m.Denotes scope s fits e .null ∨
      ∃ ref w, v = .object ref ∧ m.Reads scope s fits ref member e w := by
  have hmember' := hmember.mono ht
  obtain ⟨-, hreadable, bound, hbound, rfl⟩ := Expr.mkNavigate_eq_ok h
  obtain ⟨hdenotes, hsub⟩ := hr.upcast ht hbound
  have hconf := hdenotes.conforms
  rw [Expr.type_upcastReceiver hbound] at hconf
  rcases TypeTable.conforms_object hconf with rfl | ⟨ref, rfl, -⟩
  · refine .inl ⟨rfl, ?_, ?_⟩
    · rw [evaluate]
      exact hdenotes.computes.bind (.pure _)
    · rw [TypeTable.conforms_null]
      exact TypeTable.acceptsNull_orNull member.type
  · obtain ⟨w, hheld, hwconf, hwlive⟩ := hs.held hm.sound hmember' hslot hlive (hsub ref rfl)
    refine .inr ⟨ref, w, rfl, hheld, hwlive, ?_, TypeTable.conforms_orNull hwconf⟩
    rw [evaluate]
    refine hdenotes.computes.bind (.lift fun s' hs' => ?_)
    exact perform_load hmember' hm.sound hreadable ((hs'.held hlive _).trans hheld)

end Machine
end Reshape
