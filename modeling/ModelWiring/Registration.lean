import ModelWiring.Model.Basic

/-!
Registrations: what serves a capability, with the options that it starts from.
-/

namespace ModelWiring

/-- What a registration hands out: a model, a stand-in that may hold a client,
or anything else. -/
inductive Served where
  | model (m : Model)
  | standIn (name : String) (api : Option ClientId)
  | other (name : String)
deriving Repr

def Served.api? : Served → Option ClientId
  | model m => some m.api
  | standIn _ api => api
  | other _ => none

/-- Default options: a record, or an object of a class outside the package, of
which no more is asked than what it shows for its model. -/
inductive Defaults where
  | record (r : Record)
  | foreign (name : String) (model : Except Fault Value)
deriving Repr

namespace Defaults

def record? : Defaults → Option Record
  | record r => some r
  | foreign .. => none

/-- The model that the options name, as it is put into a report; that fails
where it cannot be shown. -/
def shownModel : Defaults → Except Fault Value
  | record r => do
      let model := r.answer "model"
      model.checkShown
      return model
  | foreign _ model => model

/-- A caller that registers has a record or nothing. -/
instance : Coe (Option Record) (Option Defaults) :=
  ⟨Option.map record⟩

instance : Coe (Option Defaults) (Option Record) :=
  ⟨fun options => options.bind record?⟩

end Defaults

/-- A capability bound to what one provider serves for it. -/
structure Registration where
  capability : Capability
  provider : String
  client : Served
  options : Option Defaults
deriving Repr

end ModelWiring
