import ModelWiring.Options.Record
import ModelWiring.Value.Frozen
import ModelWiring.Value.Table

/-!
A record as it is sent: the fields that are set, thawed, under their names on
the wire. Further parameters stand beside the declared ones and win over them.
-/

namespace ModelWiring.Record

def wireEntries : List OptionField → List Value → Table
  | f :: fields, v :: values =>
      if v.isNull then wireEntries fields values
      else (.plain f.wireName, v.thaw) :: wireEntries fields values
  | _, _ => []

def wire (r : Record) : Except Fault Table :=
  let entries := wireEntries r.kind.fields r.values
  if r.kind = .watsonxChat then
    match Keyed.get? "additional" entries with
    | some more => more.putInto (Keyed.erase "additional" entries)
    | none => .ok entries
  else .ok entries

end ModelWiring.Record
