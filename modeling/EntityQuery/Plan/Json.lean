import EntityQuery.Json.Basic
import EntityQuery.Plan.Basic

set_option autoImplicit false

namespace EntityQuery

open Json

def PlanOp.toJson (op : PlanOp) : Json :=
  object ([("step", integer op.step), ("name", string op.name), ("display", string op.toText)] ++
    op.includeOp?.toList.map fun link => ("include", link.toJson))

def Plan.toJson (plan : Plan) : Json :=
  object [("len", integer plan.length), ("isEmpty", bool plan.isEmpty),
    ("names", ofList (fun op => string op.name) plan), ("ops", ofList PlanOp.toJson plan),
    ("debug", string (Plan.toText plan))]

end EntityQuery
