import EntityQuery.Schema.Path
import EntityQuery.Value.Basic

set_option autoImplicit false

namespace EntityQuery

/-- Reading a path in declared spelling gives the value; an unknown path, an absent value and a path
through an absent entity all give null. -/
structure Entity (ι α : Type) where
  schema : Schema ι
  value : α → String → Value

namespace Entity

variable {ι α : Type}

def name (E : Entity ι α) : String :=
  E.schema.name

def scalarValues (E : Entity ι α) (row : α) : List Value :=
  E.schema.entity.scalarFields.map fun f => E.value row f.name

end Entity

end EntityQuery
