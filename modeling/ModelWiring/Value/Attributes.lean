import ModelWiring.Fault
import ModelWiring.Value.Basic

/-!
The attributes that values have by their type, and what comes of changing
them. Records and biases refuse every change; of other values only words and
the inner table of a frozen map can be changed at all.
-/

namespace ModelWiring.Value

def commonAttributes : List String :=
  ["__delattr__", "__dir__", "__doc__", "__eq__", "__format__", "__ge__",
   "__getattribute__", "__getstate__", "__gt__", "__hash__", "__init__",
   "__init_subclass__", "__le__", "__lt__", "__ne__", "__new__", "__reduce__",
   "__reduce_ex__", "__repr__", "__setattr__", "__sizeof__", "__str__",
   "__subclasshook__"]

def containerAttributes : List String :=
  ["__contains__", "__getitem__", "__iter__", "__len__"]

def textAttributes : List String :=
  ["capitalize", "casefold", "center", "count", "encode", "endswith", "expandtabs",
   "find", "format", "format_map", "index", "isalnum", "isalpha", "isascii",
   "isdecimal", "isdigit", "isidentifier", "islower", "isnumeric", "isprintable",
   "isspace", "istitle", "isupper", "join", "ljust", "lower", "lstrip", "maketrans",
   "partition", "removeprefix", "removesuffix", "replace", "rfind", "rindex",
   "rjust", "rpartition", "rsplit", "rstrip", "split", "splitlines", "startswith",
   "strip", "swapcase", "title", "translate", "upper", "zfill", "__add__",
   "__getnewargs__", "__mod__", "__mul__", "__rmod__", "__rmul__"]

def numberAttributes : List String :=
  ["as_integer_ratio", "conjugate", "__abs__", "__add__", "__bool__", "__ceil__",
   "__divmod__", "__float__", "__floor__", "__floordiv__", "__getnewargs__",
   "__int__", "__mod__", "__mul__", "__neg__", "__pos__", "__pow__", "__radd__",
   "__rdivmod__", "__rfloordiv__", "__rmod__", "__rmul__", "__round__", "__rpow__",
   "__rsub__", "__rtruediv__", "__sub__", "__truediv__", "__trunc__"]

def wholeAttributes : List String :=
  numberAttributes ++ ["bit_count", "bit_length", "from_bytes", "to_bytes",
    "__and__", "__index__", "__invert__", "__lshift__", "__or__", "__rand__",
    "__rlshift__", "__ror__", "__rrshift__", "__rshift__", "__rxor__", "__xor__"]

def listAttributes : List String :=
  ["append", "clear", "copy", "count", "extend", "index", "insert", "pop", "remove",
   "reverse", "sort", "__add__", "__class_getitem__", "__delitem__", "__iadd__",
   "__imul__", "__mul__", "__reversed__", "__rmul__", "__setitem__"]

def mapAttributes : List String :=
  ["clear", "copy", "fromkeys", "get", "items", "keys", "pop", "popitem",
   "setdefault", "update", "values", "__class_getitem__", "__delitem__", "__ior__",
   "__or__", "__reversed__", "__ror__", "__setitem__"]

def frozenAttributes : List String :=
  ["get", "items", "keys", "values", "__abstractmethods__", "__class_getitem__",
   "__module__", "__orig_bases__", "__parameters__", "__reversed__", "__slots__",
   "_abc_impl", "_is_protocol"]

/-- The attributes that values of the same type share and nobody can change. -/
def sharedAttributes : Value → List String
  | null => "__bool__" :: commonAttributes
  | bool _ | int _ => commonAttributes ++ wholeAttributes
  | float _ => commonAttributes ++ numberAttributes
      ++ ["fromhex", "hex", "is_integer", "__getformat__"]
  | text _ => commonAttributes ++ containerAttributes ++ textAttributes
  | list _ | ref ⟨.list, _⟩ => commonAttributes ++ containerAttributes ++ listAttributes
  | tuple _ => commonAttributes ++ containerAttributes
      ++ ["count", "index", "__add__", "__class_getitem__", "__getnewargs__", "__mul__",
        "__rmul__"]
  | map _ | ref ⟨.map, _⟩ => commonAttributes ++ containerAttributes ++ mapAttributes
  | frozen _ => commonAttributes ++ containerAttributes ++ frozenAttributes
  | choice _ | bias .. | record .. | ref ⟨.builder _, _⟩ => []

/-- The attributes that are worked out of a number, with the type that they
belong to. -/
def computedAttributes : Value → String × List String
  | bool _ | int _ => ("int", ["denominator", "imag", "numerator", "real"])
  | float _ => ("float", ["imag", "real"])
  | _ => ("", [])

/-- Whether an attribute of a value can be set to nothing, or deleted; if not,
why. -/
def changeAttribute (v : Value) (deleting : Bool) (name : String) : Except Fault Unit :=
  match v with
  | record .. | bias .. => .error (.fixedField deleting name)
  | v =>
      let (owner, computed) := v.computedAttributes
      if name = "__class__" then .error (.fixedType deleting)
      else if name ∈ computed then .error (.computedMember owner name)
      else if name ∈ v.sharedAttributes then .error (.sharedMember v.typeName name)
      else match v with
        | choice _ => if name = "name" ∨ name = "value" then .error (.fixedWord deleting name)
            else .ok ()
        | frozen _ => if name = "_data" then .ok () else .error (.noMember v.typeName name)
        | v => .error (.noMember v.typeName name)

end ModelWiring.Value
