import ModelWiring.Compression.Inflate
import ModelWiring.Exchange.Basic

/-!
The content of an answer. A header names the forms that it was put into one
after the other, and reading it takes them off in the opposite order.
-/

namespace ModelWiring

inductive ContentForm where
  | deflated
  /-- Deflated in a wrapping of its own. -/
  | zipped
deriving DecidableEq, Repr

namespace ContentForm

/-- The forms that a header names. Any other name changes nothing. -/
def ofHeaders (headers : Headers) : List ContentForm :=
  (headers.values "content-encoding").flatMap fun value =>
    (Text.splitAt ',' value.toList).filterMap fun name =>
      match Text.lower (String.ofList (Text.trim name)) with
      | "deflate" => some .deflated
      | "gzip" => some .zipped
      | _ => none

/-- Takes a form off content. Deflated content may stand between a header and
a checksum. No text starts with the mark of the wrapping, and one byte tells
too little to refuse it. -/
def takeOff (content : List UInt8) : ContentForm → Except Compression.InflateFault (List UInt8)
  | deflated => match Compression.inflateWrapped content with
      | .ok bytes => .ok bytes
      | .error _ => Compression.inflate content
  | zipped => if content.length < 2 then .ok [] else .error .header

end ContentForm

/-- The content of a body under its headers. A body that is empty stays so. -/
def contentOf (body : List UInt8) (headers : Headers) :
    Except Compression.InflateFault (List UInt8) :=
  if body.isEmpty then .ok []
  else (ContentForm.ofHeaders headers).reverse.foldlM ContentForm.takeOff body

end ModelWiring
