import Waypost.Fault.Basic

/-!
# Handlers by name

Routes name their handlers; the registry holds the handlers themselves. An id is registered once.
-/

namespace Waypost.Service

/-- Handlers by id. -/
structure Registry (β : Type) where
  handlers : List (String × β) := []

namespace Registry

variable {β : Type}

/-- The handler of an id. -/
def get? (r : Registry β) (id : String) : Option β :=
  Keyed.get? id r.handlers

/-- Whether an id has a handler. -/
def contains (r : Registry β) (id : String) : Bool :=
  Keyed.has id r.handlers

/-- The registered ids. -/
def ids (r : Registry β) : List String :=
  Keyed.keys r.handlers

/-- The number of handlers. -/
def size (r : Registry β) : Nat :=
  r.handlers.length

/-- Registers a handler. -/
def register (r : Registry β) (id : String) (h : β) : Except SetupError (Registry β) :=
  if r.contains id then .error (.handlerTaken id)
  else .ok ⟨r.handlers ++ [(id, h)]⟩

/-- The ids, each once and in order, of a list that have no handler. -/
def missing (r : Registry β) (ids : List String) : List String :=
  (Route.sortedSet ids).filter fun id => !r.contains id

end Registry

end Waypost.Service
