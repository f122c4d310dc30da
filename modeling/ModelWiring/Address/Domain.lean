import ModelWiring.Address.Domain.Label
import ModelWiring.Address.Domain.Punycode
import ModelWiring.Text.Blank

/-!
Domain names, as people write them and in the plain form that is sent. A label
that is not plain is sent as a mark with its plain form behind.
-/

namespace ModelWiring.Address.Domain

/-- What a plain form starts with. -/
def plainMark : List Char := ['x', 'n', '-', '-']

def greatestLabelLength : Nat := 63

/-- A label as people write it, from ASCII characters: in lower case, and read
if it is a plain form. -/
def written (label : List Char) : Except DomainFault (List Char) := do
  let label := label.map Char.toLower
  if plainMark.isPrefixOf label then
    let content := label.drop plainMark.length
    if content.isEmpty then throw .noContent
    if content.getLast? = some '-' then throw .finalHyphen
    match Punycode.decode? content with
    | none => throw .unreadable
    | some label => do
        Label.check label
        return label
  else
    Label.check label
    return label

/-- A label as it is sent. -/
def plain (label : List Char) : Except DomainFault (List Char) := do
  let sent ← if label.all Text.isAscii then do
      let _ ← written label
      pure label
    else do
      Label.check label
      pure (plainMark ++ Punycode.encode label)
  if greatestLabelLength < sent.length then throw .labelTooLong
  return sent

/-- The labels of a name, between full stops of any width. -/
def labels (name : List Char) : List (List Char) :=
  Text.splitAt '.' (name.map fun c => if ['。', '．', '｡'].contains c then '.' else c)

/-- Puts each label of a name into another form. A dot at the end of the name
stays. -/
def mapLabels (form : List Char → Except DomainFault (List Char)) (name : List Char) :
    Except DomainFault (List Char) := do
  if Label.greatestNameLength < name.length then throw .nameTooLong
  match (labels name).reverse with
  | [] | [[]] => throw .noName
  | [] :: rest => return ['.'].intercalate (← rest.reverse.mapM form) ++ ['.']
  | all => return ['.'].intercalate (← all.reverse.mapM form)

def toWritten (name : List Char) : Except DomainFault (List Char) :=
  mapLabels written name

def toPlain (name : List Char) : Except DomainFault (List Char) := do
  let sent ← mapLabels plain name
  let longest := Label.greatestNameLength - (if sent.getLast? = some '.' then 0 else 1)
  if longest < sent.length then throw .nameTooLong
  return sent

end ModelWiring.Address.Domain
