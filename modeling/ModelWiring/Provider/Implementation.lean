import ModelWiring.Provider.Namespace
import ModelWiring.Text.Blank

/-!
Following the paths that providers name. A path gives a module and, after a
colon, a member of it. The modules of the package are known; what else can be
imported depends on what is installed. A path that leads nowhere is reported and
skipped, since an implementation need not be installed; a path without a module
is an error, and so is a module that cannot be imported for another reason than
that it, or one that it needs, is not there.
-/

namespace ModelWiring

/-- How following a path ends. -/
inductive Lookup where
  | found (implementation : Implementation)
  /-- There is no such module, or no such member in it. -/
  | missing (reason : String)
  /-- The path cannot be followed, or importing its module fails. -/
  | broken (cause : Fault)

def Lookup.noModule (name : String) : Lookup :=
  .missing ("No module named " ++ Text.quoted name)

/-- What is installed beside the package: what comes of importing a module and
taking a member of it, by their names. -/
structure Installation where
  lookUp : String → String → Lookup := fun moduleName _ =>
    .noModule (String.ofList (moduleName.toList.takeWhile (· ≠ '.')))

namespace Implementation

/-- The module of a path and the member after its first colon. -/
def splitPath (path : String) : String × String :=
  let chars := path.toList
  (String.ofList (chars.takeWhile (· ≠ ':')),
   String.ofList ((chars.dropWhile (· ≠ ':')).drop 1))

/-- The parts of a module's name. -/
def moduleParts (moduleName : String) : List String :=
  (Text.splitAt '.' moduleName.toList).map String.ofList

/-- A member in a namespace, which is that of the module named. -/
def memberOf (members : Namespace) (moduleName member : String) : Lookup :=
  match Keyed.get? member members with
  | some found => .found found
  | none => .missing s!"module '{moduleName}' has no attribute '{member}'"

/-- A member of a module of the package, by the parts of the module's name that
follow that of the package. -/
def findOwn (moduleName member : String) : List String → Lookup
  | [] => memberOf Namespace.packageNamespace moduleName member
  | part :: rest =>
      let fullName := Namespace.package ++ "." ++ part
      match Namespace.ofPart? part, rest with
      | none, _ => .noModule fullName
      | some members, [] => memberOf members moduleName member
      | some _, next :: _ => .missing ("No module named " ++ Text.quoted (fullName ++ "." ++ next)
          ++ "; " ++ Text.quoted fullName ++ " is not a package")

/-- What a path leads to. -/
def find (installed : Installation) (path : String) : Lookup :=
  let (moduleName, member) := splitPath path
  if moduleName = "" then .broken .emptyModule
  else if moduleName.toList.head? = some '.' then .broken (.relativeModule moduleName)
  else if (moduleParts moduleName).head? = some Namespace.package then
    findOwn moduleName member (moduleParts moduleName).tail
  else installed.lookUp moduleName member

/-- Follows a path. One that leads nowhere gives nothing and is reported. -/
def locate (installed : Installation) (path : String) : Reporting (Option Implementation) := do
  match find installed path with
  | .found found => return some found
  | .missing reason =>
      report (.unavailable path reason)
      return none
  | .broken cause => throw cause

/-- The model class that an implementation is; what is none fails in its own
way. -/
def factory : Implementation → Except Fault ModelFactory
  | client => .error (.noTypeMember "WatsonxAiApi" optionsMember)
  | model m => .ok m.factory
  | other asModel _ => .error asModel
  | foreign c => .ok c.asModel

end Implementation

end ModelWiring
