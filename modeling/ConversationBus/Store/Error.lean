/-!
# Failures of a store
-/

namespace ConversationBus

/-- Why a call of a store fails. -/
inductive StoreError where
  | connection
  | query (text : String)
  | notFound
  | conflict (text : String)
  deriving DecidableEq, Repr

def StoreError.message : StoreError → String
  | .connection => "database connection error"
  | .query text => s!"query error: {text}"
  | .notFound => "entity not found"
  | .conflict text => s!"conflict: {text}"

end ConversationBus
