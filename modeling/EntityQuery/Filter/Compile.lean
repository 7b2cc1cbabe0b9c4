import EntityQuery.Config
import EntityQuery.Error
import EntityQuery.Expr.Basic
import EntityQuery.Filter.Literal
import EntityQuery.Filter.Model
import EntityQuery.Schema.Path

set_option autoImplicit false

namespace EntityQuery

def isFieldName (name : String) : Bool :=
  match name.toList with
  | [] => false
  | c :: cs => c.isAlpha && cs.all fun d => d.isAlphanum || d = '.'

structure FilterCompiler (ι : Type) where
  schema : Schema ι
  config : QueryConfig

namespace FilterCompiler

variable {ι : Type}

def resolveOperator (name : String) : Except QueryError FilterOperator :=
  match FilterOperator.resolve? name with
  | some op => .ok op
  | none => .error (.unknownOperator name)

def resolveItems : List FilterItem → Except QueryError (List (FilterItem × FilterOperator))
  | [] => .ok []
  | item :: items => do
    let op ← resolveOperator item.operator
    let rest ← resolveItems items
    return (item, op) :: rest

def resolveGroups :
    List FilterGroup → Except QueryError (List (FilterLogic × List (FilterItem × FilterOperator)))
  | [] => .ok []
  | group :: groups => do
    let items ← resolveItems group.items
    let rest ← resolveGroups groups
    return (group.logic, items) :: rest

variable (c : FilterCompiler ι)

def resolveField? (name : String) : Option (ResolvedField ι) :=
  if isFieldName name then c.schema.resolvePath? name else none

def coerce? (f : FieldDescriptor ι) (text : String) : Option Value :=
  if f.type.isObject then none
  else match f.type.readValue? text with
    | some v => some v
    | none =>
      match c.config.parseFailure with
      | .defaultValue => some f.type.defaultValue
      | .noMatch => none

def tokens (text : String) : List String :=
  ((Text.split ',' text).map Text.trim).filter fun t => t ≠ ""

def exceeds (n : Nat) (limit : Count) : Bool :=
  limit.toNat < n

def compileSet (r : ResolvedField ι) (text : String) (negated : Bool) : Expr :=
  let ts := tokens text
  if exceeds ts.length c.config.maxSetValues then .const false
  else match ts.mapM (c.coerce? r.descriptor) with
    | some values => .memberOf r.path values negated
    | none => .const false

def compileText (r : ResolvedField ι) (op : TextOp) (text : String) : Expr :=
  if r.descriptor.type.isString then .text r.path op text else .const false

def compileCompare (r : ResolvedField ι) (op : CompareOp) (text : String) : Expr :=
  match c.coerce? r.descriptor text with
  | some v => .compare r.path op v
  | none => .const false

def compileNull (r : ResolvedField ι) (negated : Bool) : Expr :=
  if r.nullable then .null r.path negated else .const negated

def compileEmpty (r : ResolvedField ι) (negated : Bool) : Expr :=
  if r.descriptor.type.isString then .empty r.path negated else .const false

def compileField (r : ResolvedField ι) (op : FilterOperator) (text : String) : Expr :=
  match op with
  | .isNull => compileNull r false
  | .isNotNull => compileNull r true
  | .isEmpty => compileEmpty r false
  | .isNotEmpty => compileEmpty r true
  | .contains => compileText r .contains text
  | .startsWith => compileText r .startsWith text
  | .endsWith => compileText r .endsWith text
  | .oneOf => c.compileSet r text false
  | .notOneOf => c.compileSet r text true
  | .equals => c.compileCompare r .eq text
  | .notEquals => c.compileCompare r .ne text
  | .greaterThan => c.compileCompare r .gt text
  | .greaterOrEqual => c.compileCompare r .ge text
  | .lessThan => c.compileCompare r .lt text
  | .lessOrEqual => c.compileCompare r .le text

def compileResolved (item : FilterItem) (op : FilterOperator) : Expr :=
  match c.resolveField? item.field with
  -- Field names come from outside, so an unknown one is not an error.
  | none => .const false
  | some r =>
    let text := item.value.getD ""
    if op.requiresValue && exceeds (Text.byteLength text) c.config.maxValueLength then
      .const false
    else c.compileField r op text

def compileItem (item : FilterItem) : Except QueryError Expr := do
  let op ← resolveOperator item.operator
  return c.compileResolved item op

def compileItems (items : List (FilterItem × FilterOperator)) : List Expr :=
  items.map fun (item, op) => c.compileResolved item op

def compileGroup (logic : FilterLogic) (items : List (FilterItem × FilterOperator)) : Expr :=
  match logic with
  | .and => .all (c.compileItems items)
  | .or => if items.isEmpty then .const true else .any (c.compileItems items)

def compileSearch (term : String) : Expr :=
  let term := Text.trim term
  if Text.isBlankText term then .const true
  else if exceeds (Text.byteLength term) c.config.maxValueLength then .const false
  else match c.schema.stringFields with
    | [] => .const true
    | fields => .any (fields.map fun f => .text f .contains term)

def isOversized (model : FilterModel) : Bool :=
  exceeds model.items.length c.config.maxFilterItems ||
    exceeds model.groups.length c.config.maxFilterGroups ||
    model.groups.any fun g => exceeds g.items.length c.config.maxGroupItems

def compile (model : FilterModel) : Except QueryError Expr := do
  let items ← resolveItems model.items
  let groups ← resolveGroups model.groups
  -- Operators are the developer's choice and are reported even for a model that is too large.
  if c.isOversized model then
    return .const false
  else
    return .all (c.compileItems items ++
      groups.map (fun (logic, items) => c.compileGroup logic items) ++
      model.searchTerm.toList.map c.compileSearch)

def compileSorts (sorts : List SortItem) : List SortCriterion :=
  sorts.filterMap fun s => (c.resolveField? s.field).map fun r => ⟨r.path, s.direction⟩

end FilterCompiler

end EntityQuery
