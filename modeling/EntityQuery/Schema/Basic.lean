import EntityQuery.Text.Basic

/-!
Descriptions of entities: their fields, and their links to other entities. Entities refer to each
other by an index, so descriptions may be circular; a `Schema` is a family of descriptions seen from
one of its members. The schema is the whitelist that every field name is checked against.
-/

set_option autoImplicit false

namespace EntityQuery

inductive FieldType (ι : Type) where
  | string
  | integer
  | float
  | boolean
  | dateTime
  | date
  | uuid
  | enumeration (variants : List String)
  | object (target : ι)

namespace FieldType

variable {ι : Type}

def isString : FieldType ι → Bool
  | string => true
  | _ => false

def isObject : FieldType ι → Bool
  | object _ => true
  | _ => false

def isReference : FieldType ι → Bool
  | string => true
  | object _ => true
  | _ => false

def name : FieldType ι → String
  | string => "string"
  | integer => "integer"
  | float => "float"
  | boolean => "boolean"
  | dateTime => "datetime"
  | date => "date"
  | uuid => "uuid"
  | enumeration _ => "enum"
  | object _ => "object"

end FieldType

structure FieldDescriptor (ι : Type) where
  name : String
  type : FieldType ι
  nullable : Bool

namespace FieldDescriptor

variable {ι : Type}

def required (name : String) (type : FieldType ι) : FieldDescriptor ι :=
  ⟨name, type, false⟩

def optional (name : String) (type : FieldType ι) : FieldDescriptor ι :=
  ⟨name, type, true⟩

def canBeNull (f : FieldDescriptor ι) : Bool :=
  f.nullable || f.type.isReference

end FieldDescriptor

inductive LinkShape where
  | reference
  | collection
  deriving DecidableEq

namespace LinkShape

def isCollection : LinkShape → Bool
  | reference => false
  | collection => true

def label : LinkShape → String
  | reference => "Reference"
  | collection => "Collection"

def returnType (shape : LinkShape) (element : String) : String :=
  match shape with
  | reference => element
  | collection => "Vec<" ++ element ++ ">"

end LinkShape

structure RelationDescriptor (ι : Type) where
  name : String
  shape : LinkShape
  target : ι

structure EntitySchema (ι : Type) where
  name : String
  fields : List (FieldDescriptor ι)
  relations : List (RelationDescriptor ι)

namespace EntitySchema

variable {ι : Type}

def field? (e : EntitySchema ι) (name : String) : Option (FieldDescriptor ι) :=
  e.fields.find? fun f => Text.sameIgnoringAsciiCase f.name name

def relation? (e : EntitySchema ι) (name : String) : Option (RelationDescriptor ι) :=
  e.relations.find? fun r => Text.sameIgnoringAsciiCase r.name name

def scalarFields (e : EntitySchema ι) : List (FieldDescriptor ι) :=
  e.fields.filter fun f => !f.type.isObject

end EntitySchema

structure Schema (ι : Type) where
  family : ι → EntitySchema ι
  root : ι

namespace Schema

variable {ι : Type}

def entity (s : Schema ι) : EntitySchema ι :=
  s.family s.root

def name (s : Schema ι) : String :=
  s.entity.name

def seenFrom (s : Schema ι) (target : ι) : Schema ι :=
  { s with root := target }

end Schema

end EntityQuery
