import ModelWiring.Keyed
import ModelWiring.Vocabulary

/-!
The keys of maps. A key is a text; a word of a vocabulary may stand in for the
text that it means and is then shown as the word.
-/

namespace ModelWiring

inductive Key where
  | plain (s : String)
  | word (c : Choice)
deriving DecidableEq, Repr, Inhabited

namespace Key

def text : Key → String
  | plain s => s
  | word c => c.text

/-- The key inside a sentence. -/
def plainText : Key → String
  | plain s => s
  | word c => c.fullName

instance : Coe String Key where
  coe := plain

instance : Keying Key where
  text := text

@[simp]
theorem keying_text (k : Key) : Keying.text k = k.text := rfl

end Key

end ModelWiring
