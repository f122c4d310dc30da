import ModelWiring.Provider.Foreign

/-!
What stands under the names of the package's modules. Providers name their
classes by module and member, and any member may be named: a client class, a
model class, or something that can take neither part and says so when it is
asked for its options or called for a client.
-/

namespace ModelWiring

/-- What a path leads to: the client of the backend, a model class, something
else of the package, which fails in one way when it is taken for a model class
and in another when it is called like a client class, or a member of a module
outside the package. -/
inductive Implementation where
  | client
  | model (m : ModelClass)
  | other (asModel asClient : Fault)
  | foreign (c : ForeignClass)

namespace Implementation

def optionsMember : String := "options_class"

/-- The argument under which a client class takes its channel. -/
def channelArgument : String := "http_client"

/-- A thing of a type that cannot be called. -/
def object (type : String) : Implementation :=
  other (.noMember type optionsMember) (.notCallable type)

/-- A class whose initializer takes no channel. -/
def ownClass (name : String) : Implementation :=
  other (.noTypeMember name optionsMember)
    (.unexpectedArgument (name ++ ".__init__") channelArgument)

/-- A function that takes no channel. -/
def function (name : String) : Implementation :=
  other (.noMember "function" optionsMember) (.unexpectedArgument name channelArgument)

def wordClass : Implementation :=
  other (.noWord optionsMember) (.unexpectedArgument "EnumType.__call__" channelArgument)

/-- A builder's class tells its options but starts from none. -/
def builderClass (kind : OptionsKind) : Implementation :=
  other (.noTypeMember kind.builderName "provider_defaults")
    (.unexpectedArgument "OptionsBuilder.__init__" channelArgument)

/-- A class of faults that takes no named arguments. -/
def faultClass (name : String) : Implementation :=
  other (.noTypeMember name optionsMember) (.noKeywords name)

def module (name : String) : Implementation :=
  other (.noModuleMember name optionsMember) (.notCallable "module")

/-- A class that takes no arguments. -/
def emptyClass (name : String) : Implementation :=
  other (.noTypeMember name optionsMember) (.noArguments name)

def containerForm (name type : String) : Implementation :=
  other (.noTypeMember type optionsMember) (.plainInstead name type)

def typeMark (name : String) : Implementation :=
  other (.noWord optionsMember) (.markOnly name)

/-- A method that all modules have. -/
def ownMethod (type callable : String) : Implementation :=
  other (.noMember type optionsMember) (.noKeywords callable)

end Implementation

/-- The members of a module by their names. -/
abbrev Namespace := Keyed Implementation

namespace Namespace

open Implementation

def ownClasses (names : List String) : Namespace :=
  names.map fun name => (name, ownClass name)

def functions (names : List String) : Namespace :=
  names.map fun name => (name, function name)

def objects (type : String) (names : List String) : Namespace :=
  names.map fun name => (name, object type)

/-- What every module has, whatever it holds. -/
def common : Namespace :=
  objects "str" ["__name__", "__doc__", "__package__", "__file__", "__cached__"]
    ++ objects "dict" ["__builtins__", "__dict__", "__annotations__"]
    ++ [("__loader__", object "SourceFileLoader"), ("__spec__", object "ModuleSpec"),
      ("__class__", other (.noTypeMember "module" optionsMember)
        (.invalidKeyword "module" channelArgument)),
      ("__init__", other (.noMember "method-wrapper" optionsMember)
        (.invalidKeyword "module" channelArgument)),
      ("__new__", other (.noMember "builtin_function_or_method" optionsMember)
        (.notType "module.__new__" "ConnectionSettings")),
      ("__init_subclass__", ownMethod "builtin_function_or_method" "module.__init_subclass__")]
    ++ ["__delattr__", "__eq__", "__ge__", "__getattribute__", "__gt__", "__hash__", "__le__",
      "__lt__", "__ne__", "__repr__", "__setattr__", "__str__"].map
        (fun name => (name, ownMethod "method-wrapper" ("wrapper " ++ name)))
    ++ ["__dir__", "__format__", "__getstate__", "__reduce__", "__reduce_ex__", "__sizeof__",
      "__subclasshook__"].map
        (fun name => (name, ownMethod "builtin_function_or_method" name))

/-- The marks for types that modules write their signatures with. -/
def typeForms : Namespace :=
  [("Any", other (.noTypeMember "Any" optionsMember) (.noInstances "Any")),
   ("ClassVar", typeMark "ClassVar"), ("Optional", typeMark "Optional"),
   ("Dict", containerForm "Dict" "dict"), ("List", containerForm "List" "list"),
   ("Tuple", containerForm "Tuple" "tuple"), ("Type", containerForm "Type" "type"),
   ("Callable", emptyClass "Callable"), ("Generic", emptyClass "Generic"),
   ("Iterable", emptyClass "Iterable"), ("Iterator", emptyClass "Iterator"),
   ("Mapping", emptyClass "Mapping"), ("Sequence", emptyClass "Sequence"),
   ("TypeVar", ownClass "TypeVar")]

def marks (names : List String) : Namespace :=
  typeForms.filter fun (name, _) => names.contains name

def marker : Namespace := objects "_Feature" ["annotations"]

def logger : Namespace := objects "Logger" ["logger"]

def providerName : Namespace := objects "str" ["WATSONX_AI"]

def words (names : List String) : Namespace :=
  names.map fun name => (name, wordClass)

/-- The members that the package exports. -/
def exported : Namespace :=
  ownClasses ["ProviderAutoConfiguration", "CohereChatOptions", "LogitBias",
      "CapabilitySettings", "ConnectionSettings", "ModelSettings",
      "MissingConfigurationError", "ModelOptions", "OptionsBuilder", "ModelRegistry",
      "Registration"]
    ++ [("assemble", other (.noMember "function" optionsMember)
        (.missingArguments "assemble" ["registry"])),
      ("ModelConfigurationError", faultClass "ModelConfigurationError")]
    ++ functions ["get_available_providers", "merge_options"]
    ++ words ["ReturnLikelihoods", "Truncate", "Capability"]
    ++ objects "dict" ["AUTO_CONFIGURATIONS"] ++ providerName

/-- Exported members under some names, where another module takes them in. -/
def shared (names : List String) : Namespace :=
  exported.filter fun (name, _) => names.contains name

def options : Namespace :=
  marker ++ logger ++ functions ["dataclass", "field", "fields", "is_dataclass", "option",
      "_freeze", "_thaw"]
    ++ words ["Enum"]
    ++ marks ["Any", "ClassVar", "Dict", "Generic", "Iterator", "Mapping", "Optional", "Type",
      "TypeVar"]
    ++ objects "tuple" ["PORTABLE_ACCESSORS"] ++ objects "TypeVar" ["O"]
    ++ ownClasses ["FrozenMap"]
    ++ shared ["ModelOptions", "OptionsBuilder", "merge_options"]

def cohere : Namespace :=
  marker ++ functions ["dataclass", "option"] ++ words ["Enum"]
    ++ marks ["Optional", "Sequence", "Tuple"]
    ++ shared ["ModelOptions", "OptionsBuilder", "ReturnLikelihoods", "Truncate", "LogitBias",
      "CohereChatOptions"]
    ++ [("CohereChatOptionsBuilder", builderClass .cohereChat)]

def watsonx : Namespace :=
  [("WatsonxAiApi", client), ("WatsonxAiChatModel", model .chat),
   ("WatsonxAiEmbeddingModel", model .embedding)]
    ++ marker ++ logger ++ functions ["dataclass", "option"]
    ++ marks ["Any", "Dict", "List", "Mapping", "Optional", "Sequence", "Tuple"]
    ++ [("httpx", module "httpx")]
    ++ shared ["ConnectionSettings", "MissingConfigurationError", "ModelOptions",
      "OptionsBuilder", "merge_options", "WATSONX_AI"]
    ++ objects "dict" ["DEFAULT_CHAT_OPTIONS", "DEFAULT_EMBEDDING_OPTIONS"]
    ++ ownClasses ["WatsonxAiChatOptions", "WatsonxAiEmbeddingOptions"]
    ++ [("WatsonxAiChatOptionsBuilder", builderClass .watsonxChat),
      ("WatsonxAiEmbeddingOptionsBuilder", builderClass .watsonxEmbedding)]

def config : Namespace :=
  marker ++ logger ++ [("os", module "os")]
    ++ functions ["dataclass", "field", "fields", "load_dotenv", "fetch_secret", "_split_list",
      "_normalize_selector", "_parse_timeout", "_options_from_env"]
    ++ marks ["Any", "Callable", "Dict", "List", "Mapping", "Optional"]
    ++ shared ["ModelConfigurationError", "Capability", "ConnectionSettings",
      "CapabilitySettings", "ModelSettings"]
    ++ objects "str" ["DEFAULT_BASE_URL", "DEFAULT_STREAM_ENDPOINT", "DEFAULT_TEXT_ENDPOINT",
      "DEFAULT_EMBEDDING_ENDPOINT", "DEFAULT_SECRET_NAME"]
    ++ objects "dict" ["SELECTOR_ENV", "OPTIONS_ENV_PREFIX", "_OPTION_CASTERS"]

def keyvault : Namespace :=
  marker ++ logger ++ marks ["Optional"] ++ functions ["fetch_secret"]
    ++ ownClasses ["DefaultAzureCredential", "SecretClient"]

def registry : Namespace :=
  marker ++ logger ++ functions ["dataclass"] ++ words ["Enum"]
    ++ marks ["Any", "Dict", "List", "Optional"]
    ++ shared ["ModelOptions", "WATSONX_AI", "Capability", "Registration", "ModelRegistry"]

def assembly : Namespace :=
  marker ++ logger ++ [("importlib", module "importlib")] ++ functions ["dataclass",
      "_import_class"]
    ++ objects "bool" ["TYPE_CHECKING"]
    ++ marks ["Any", "Dict", "Iterable", "List", "Mapping", "Optional"]
    ++ shared ["ModelSettings", "MissingConfigurationError", "ModelOptions", "merge_options",
      "WATSONX_AI", "Capability", "ModelRegistry", "Registration",
      "ProviderAutoConfiguration", "AUTO_CONFIGURATIONS", "get_available_providers",
      "assemble"]

def errors : Namespace :=
  marker ++ marks ["Optional"] ++ shared ["ModelConfigurationError", "MissingConfigurationError"]

/-- The package that can be imported. -/
def package : String := "model_autoconfig"

def parts : Keyed Namespace :=
  [("options", options), ("cohere", cohere), ("watsonx", watsonx), ("config", config),
   ("keyvault", keyvault), ("registry", registry), ("assembly", assembly),
   ("errors", errors)]

/-- What the package itself holds beside its parts. -/
def packageMembers : Namespace :=
  exported ++ objects "list" ["__all__"]

/-- The members of the package: what it exports, and its parts as modules. -/
def packageNamespace : Namespace :=
  packageMembers ++ objects "list" ["__path__"]
    ++ parts.map (fun (name, _) => (name, module (package ++ "." ++ name))) ++ common

/-- The members of a module of the package by the last part of its name. -/
def ofPart? (part : String) : Option Namespace :=
  if part = "__init__" then some (packageMembers ++ common)
  else (Keyed.get? part parts).map (· ++ common)

end Namespace

end ModelWiring
