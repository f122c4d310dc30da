import ModelWiring.Double.Shortest
import ModelWiring.Text.Quoted
import ModelWiring.Value.Basic

/-!
Values as texts. Shown in full, a value tells its type: texts stand in quotes,
words with their vocabulary, records with every field. As part of a sentence a
text and a word stand for themselves. A whole number with too many digits is
not shown, nor is what holds one.
-/

namespace ModelWiring.Value

def handleText (handle : Handle) : String :=
  s!"<{(ref handle).typeName} object>"

def inspectWord (c : Choice) : String :=
  "<" ++ c.fullName ++ ": " ++ Text.quoted c.text ++ ">"

def inspectKey : Key → String
  | .plain s => Text.quoted s
  | .word c => inspectWord c

mutual

/-- The value in full. -/
def inspect : Value → String
  | null => "None"
  | bool b => if b then "True" else "False"
  | int n => toString n
  | float x => x.toText
  | text s => Text.quoted s
  | choice c => inspectWord c
  | bias token weight =>
      "LogitBias(token=" ++ token.inspect ++ ", bias=" ++ weight.inspect ++ ")"
  | list items => "[" ++ ", ".intercalate (inspectItems items) ++ "]"
  | tuple [v] => "(" ++ v.inspect ++ ",)"
  | tuple items => "(" ++ ", ".intercalate (inspectItems items) ++ ")"
  | map entries => "\x7b" ++ ", ".intercalate (inspectEntries entries) ++ "\x7d"
  | frozen entries =>
      "FrozenMap(\x7b" ++ ", ".intercalate (inspectEntries entries) ++ "\x7d)"
  | record kind fields =>
      kind.name ++ "(" ++
        ", ".intercalate ((kind.fieldNames.zip (inspectItems fields)).map fun (name, s) =>
          name ++ "=" ++ s) ++ ")"
  | ref handle => handleText handle

def inspectItems : List Value → List String
  | [] => []
  | v :: rest => v.inspect :: inspectItems rest

def inspectEntries : Table → List String
  | [] => []
  | (key, v) :: rest => (inspectKey key ++ ": " ++ v.inspect) :: inspectEntries rest

end

mutual

/-- Whether no whole number in a value has too many digits to be shown. -/
def isShowable : Value → Bool
  | int n => n.natAbs < powerOfTen greatestDigitCount
  | bias token weight => token.isShowable && weight.isShowable
  | list items | tuple items | record _ items => areShowable items
  | map entries | frozen entries => showsEntries entries
  | _ => true

def areShowable : List Value → Bool
  | [] => true
  | v :: rest => v.isShowable && areShowable rest

def showsEntries : Table → Bool
  | [] => true
  | (_, v) :: rest => v.isShowable && showsEntries rest

end

/-- The value inside a sentence. -/
def plainText : Value → String
  | text s => s
  | choice c => c.fullName
  | v => v.inspect

end ModelWiring.Value
