import EntityQuery.Include.Node
import EntityQuery.Json.Basic
import EntityQuery.Schema.Path

set_option autoImplicit false

namespace EntityQuery

open Json

variable {ι : Type}

def FieldType.details (s : Schema ι) : FieldType ι → List (String × Json)
  | .enumeration variants => [("variants", ofList Json.string variants)]
  | .object target => [("object", Json.string (s.seenFrom target).name)]
  | _ => []

def FieldDescriptor.toJson (s : Schema ι) (f : FieldDescriptor ι) : Json :=
  object ([("name", string f.name), ("type", string f.type.name), ("nullable", bool f.nullable),
    ("canBeNull", bool f.canBeNull)] ++ f.type.details s)

def RelationDescriptor.toJson (s : Schema ι) (r : RelationDescriptor ι) : Json :=
  object [("name", string r.name), ("shape", string r.shape.name),
    ("target", string (s.seenFrom r.target).name)]

def ResolvedField.toJson (r : ResolvedField ι) : Json :=
  object [("path", string r.path), ("field", string r.descriptor.name),
    ("type", string r.descriptor.type.name), ("nullable", bool r.nullable)]

def Schema.toJson (s : Schema ι) : Json :=
  object [("name", string s.name),
    ("fields", ofList (FieldDescriptor.toJson s) s.entity.fields),
    ("relations", ofList (RelationDescriptor.toJson s) s.entity.relations),
    ("stringFields", ofList string s.stringFields)]

end EntityQuery
