/-!
The closed vocabularies of the domain: the capabilities that a provider may
offer, and the two lists of words that option fields take. A word has a name
inside its vocabulary and the text it stands for.
-/

namespace ModelWiring

inductive Capability where
  | chat
  | embedding
deriving DecidableEq, Repr

namespace Capability

/-- Every capability, in the order in which they are reported. -/
def all : List Capability := [chat, embedding]

def name : Capability → String
  | chat => "CHAT"
  | embedding => "EMBEDDING"

def text : Capability → String
  | chat => "chat"
  | embedding => "embedding"

end Capability

/-- How the likelihoods of tokens come back with an answer. -/
inductive ReturnLikelihoods where
  | generation
  | all
  | none
deriving DecidableEq, Repr

/-- At which end an input that is too long is cut. -/
inductive Truncate where
  | none
  | start
  | finish
deriving DecidableEq, Repr

inductive Choice where
  | truncate (word : Truncate)
  | likelihoods (word : ReturnLikelihoods)
  | capability (word : Capability)
deriving DecidableEq, Repr

namespace Choice

def vocabulary : Choice → String
  | truncate _ => "Truncate"
  | likelihoods _ => "ReturnLikelihoods"
  | capability _ => "Capability"

def name : Choice → String
  | truncate .none => "NONE"
  | truncate .start => "START"
  | truncate .finish => "END"
  | likelihoods .generation => "GENERATION"
  | likelihoods .all => "ALL"
  | likelihoods .none => "NONE"
  | capability c => c.name

def text : Choice → String
  | capability c => c.text
  | c => c.name

def fullName (c : Choice) : String :=
  c.vocabulary ++ "." ++ c.name

def all : List Choice :=
  [.truncate .none, .truncate .start, .truncate .finish,
   .likelihoods .generation, .likelihoods .all, .likelihoods .none,
   .capability .chat, .capability .embedding]

theorem mem_all (c : Choice) : c ∈ all := by
  rcases c with c | c | c <;> cases c <;> decide

end Choice

end ModelWiring
