/-!
The fields of a connection to a provider.
-/

namespace ModelWiring

/-- Every field, in declared order. -/
def connectionFieldNames : List String :=
  ["base_url", "stream_endpoint", "text_endpoint", "embedding_endpoint",
   "project_id", "iam_token", "timeout"]

/-- The fields without which no client is built, in the order in which they are
looked at. -/
def requiredFieldNames : List String :=
  ["base_url", "text_endpoint", "embedding_endpoint", "project_id", "iam_token"]

end ModelWiring
