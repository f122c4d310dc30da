import ModelWiring.Model.Asking
import ModelWiring.Proofs.Failing

/-!
Faults of an exchange come from the exchange alone. Working out the options,
the table and the request before anything is sent, and reading a document after
it came, may fail in many ways, but none of them counts as a failed exchange.
-/

namespace ModelWiring

/-- A computation that does not fail like an exchange. -/
def Offline {α : Type} (r : Except Fault α) : Prop :=
  ∀ cause, r = .error cause → cause.isExchange = false

namespace Offline

variable {α β ε : Type}

theorem ok (a : α) : Offline (.ok a) :=
  FailsWith.ok a

theorem error {cause : Fault} (h : cause.isExchange = false) :
    Offline (.error cause : Except Fault α) :=
  FailsWith.error h

theorem bind {r : Except Fault α} {next : α → Except Fault β} (hr : Offline r)
    (hnext : ∀ a, Offline (next a)) : Offline (r >>= next) :=
  FailsWith.bind hr hnext

theorem mapError {f : ε → Fault} (hf : ∀ e, (f e).isExchange = false) (r : Except ε α) :
    Offline (r.mapError f) :=
  FailsWith.mapError hf r

theorem mapM {f : α → Except Fault β} (hf : ∀ a, Offline (f a)) (l : List α) :
    Offline (l.mapM f) :=
  FailsWith.mapM hf l

/-- A check made under a condition. -/
theorem check {c : Prop} [Decidable c] {r rest : Except Fault α} (hr : Offline r)
    (hrest : Offline rest) : Offline (if c then r else rest) :=
  FailsWith.check hr hrest

/-- No exchange fails for what a value is. -/
theorem ofTabular {r : Except Fault α} (h : FailsWith (·.isTabular = true) r) : Offline r :=
  h.mono fun cause hcause => by cases cause <;> first | rfl | cases hcause

end Offline

namespace Value

theorem offline_elements (v : Value) : Offline v.elements :=
  .ofTabular v.elements_fails

theorem offline_mapEntries (v : Value) : Offline v.mapEntries := by
  unfold mapEntries
  split
  · exact .ok _
  · exact .error rfl

theorem offline_lookUp (v : Value) (key : String) : Offline (v.lookUp key) :=
  v.offline_mapEntries.bind fun _ => .ok _

theorem offline_putInto (v : Value) (table : Table) : Offline (v.putInto table) :=
  .ofTabular (v.putInto_fails table)

end Value

namespace Json

theorem offline_writeInt (n : Int) : Offline (writeInt n) := by
  unfold writeInt
  exact .check (.error rfl) (.ok _)

mutual

theorem offline_write : (v : Value) → Offline (write v)
  | .null | .bool _ | .text _ | .choice _ => by
      rw [write]
      exact .ok _
  | .int n => by
      rw [write]
      exact offline_writeInt n
  | .float x => by
      rw [write]
      exact .check (.ok _) (.error rfl)
  | .list items | .tuple items => by
      rw [write]
      exact (offline_writeItems items).bind fun _ => .ok _
  | .map entries => by
      rw [write]
      exact (offline_writeEntries entries).bind fun _ => .ok _
  | .bias .. | .frozen _ | .record .. | .ref _ => by
      simp only [write]
      exact .error rfl

theorem offline_writeItems : (items : List Value) → Offline (writeItems items)
  | [] => .ok []
  | v :: rest => (offline_write v).bind fun _ => (offline_writeItems rest).bind fun _ => .ok _

theorem offline_writeEntries : (entries : Table) → Offline (writeEntries entries)
  | [] => .ok []
  | (_, v) :: rest =>
      (offline_write v).bind fun _ => (offline_writeEntries rest).bind fun _ => .ok _

end

end Json

namespace Builder

theorem offline_start (kind : OptionsKind) : Offline (start kind) :=
  .check (.error rfl) (.ok _)

theorem offline_build (b : Builder) : Offline b.build := by
  unfold build
  split
  · exact .error rfl
  · exact .ok _

theorem offline_ofOptions (kind : OptionsKind) (v : Value) : Offline (ofOptions kind v) := by
  apply (offline_start kind).bind
  intro b
  cases declaredFields? v with
  | some entries => exact .ok _
  | none => exact .error rfl

end Builder

namespace Record

theorem offline_overlay (lower : Record) (upper : Option Record) :
    Offline (lower.overlay upper) := by
  have hlaid : Offline (lower.overlayBuilder upper) := by
    apply (Builder.offline_ofOptions _ _).bind
    intro b
    cases upper with
    | none => exact .ok _
    | some upper => exact .ok _
  exact hlaid.bind fun b => b.offline_build

theorem offline_wire (r : Record) : Offline r.wire := by
  unfold wire
  apply Offline.check
  · cases Keyed.get? "additional" (wireEntries r.kind.fields r.values) with
    | some more => exact more.offline_putInto _
    | none => exact .ok _
  · exact .ok _

end Record

theorem Headers.offline_checkText (s : List Char) : Offline (checkText s) := by
  unfold checkText
  split
  · exact .ok _
  · exact .error rfl

theorem Address.offline_checkKind (a : Address) : Offline a.checkKind :=
  .check (.ok _) (.error rfl)

namespace Service

theorem offline_resolve (s : Service) (endpoint : Value) : Offline (s.resolve endpoint) := by
  unfold resolve
  split
  · exact .error rfl
  · apply (Offline.mapError (fun _ => rfl) _).bind
    intro reference
    apply Offline.mapError
    intro fault
    cases fault <;> rfl

theorem offline_payload (s : Service) (request : Value) : Offline (s.payload request) := by
  unfold payload
  split
  · exact .ok _
  · exact .error rfl

/-- A request that cannot be prepared is no failed exchange. -/
theorem offline_prepare (s : Service) (cookies : List Cookie) (endpoint request : Value) :
    Offline (s.prepare cookies endpoint request) := by
  apply (s.offline_resolve endpoint).bind
  intro resolved
  apply (s.offline_payload request).bind
  intro payload
  apply (Offline.mapError (fun _ => rfl) _).bind
  intro target
  apply (Headers.offline_checkText _).bind
  intro _
  have hwritten : Offline (do
      let body ← Json.write (.map payload)
      let _ ← Redirect.hostOf target
      Headers.checkText target.location
      return ({
        method := "POST"
        target
        authorization := target.credentials?.getD ("Bearer " ++ s.token.plainText)
        accept := "application/json"
        contentType := "application/json"
        body := String.ofList body } : Request)) := by
    apply (Json.offline_write _).bind
    intro body
    apply (Offline.mapError (fun _ => rfl) _).bind
    intro host
    exact (Headers.offline_checkText _).bind fun _ => .ok _
  exact .check (target.offline_checkKind.bind fun _ => hwritten) hwritten

end Service

end ModelWiring
