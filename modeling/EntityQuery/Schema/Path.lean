import EntityQuery.Schema.Basic

set_option autoImplicit false

namespace EntityQuery

def maxNestingDepth : Nat := 4

structure ResolvedField (ι : Type) where
  path : String
  descriptor : FieldDescriptor ι
  nullable : Bool

def qualify (parent name : String) : String :=
  if parent = "" then name else parent ++ "." ++ name

namespace Schema

variable {ι : Type}

def resolveSegments? (family : ι → EntitySchema ι) : ι → List String → Option (ResolvedField ι)
  | _, [] => none
  | e, segment :: rest =>
    if segment = "" then none
    else match (family e).field? segment with
      | none => none
      | some f =>
        match rest, f.type with
        -- The last segment may be a nested entity as well.
        | [], _ => some ⟨f.name, f, f.canBeNull⟩
        | _ :: _, .object next =>
          (resolveSegments? family next rest).map fun r =>
            ⟨f.name ++ "." ++ r.path, r.descriptor, f.canBeNull || r.nullable⟩
        | _ :: _, _ => none

def resolvePath? (s : Schema ι) (path : String) : Option (ResolvedField ι) :=
  let segments := Text.split '.' path
  if segments.length ≤ maxNestingDepth + 1 then resolveSegments? s.family s.root segments else none

def canonicalPath? (s : Schema ι) (path : String) : Option String :=
  (s.resolvePath? path).map ResolvedField.path

def stringPaths (family : ι → EntitySchema ι) : Nat → String → ι → List String
  | depth, parent, e =>
    (family e).fields.flatMap fun f =>
      let path := qualify parent f.name
      match f.type, depth with
      | .string, _ => [path]
      | .object next, depth + 1 => stringPaths family depth path next
      | _, _ => []

def stringFields (s : Schema ι) : List String :=
  stringPaths s.family maxNestingDepth "" s.root

def resolveLinks? (family : ι → EntitySchema ι) :
    ι → List String → Option (List (RelationDescriptor ι))
  | _, [] => some []
  | e, segment :: rest =>
    if segment = "" then none
    else match (family e).relation? segment with
      | none => none
      | some r => (resolveLinks? family r.target rest).map (r :: ·)

def resolveRelations? (s : Schema ι) (path : String) : Option (List (RelationDescriptor ι)) :=
  resolveLinks? s.family s.root (Text.split '.' path)

end Schema

end EntityQuery
