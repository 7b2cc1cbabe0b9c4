import EntityQuery.Sample.Record
import EntityQuery.Sample.Shop
import EntityQuery.Value.Json

set_option autoImplicit false

namespace EntityQuery.Sample

open Json

def readFloat? : Json → Option Binary64
  | .string "NaN" => some (.quietNaN false)
  | .string "-NaN" => some (.quietNaN true)
  | .string "inf" => some (.infinity false)
  | .string "-inf" => some (.infinity true)
  | j => j.asFloat?

def readValue? (j : Json) : Option Value :=
  match j.member? "type", j.member? "value" with
  | some (.string "float"), some content => (readFloat? content).map Value.float
  | _, _ => Value.ofJson? j

def given? (name : String) (j : Json) : Option Json :=
  match j.member? name with
  | some .null => none
  | content => content

def member {α : Type} (default : α) (entry : Json → Option α) (name : String) (j : Json) :
    Option α :=
  optional default entry (given? name j)

def optionalMember {α : Type} (entry : Json → Option α) (name : String) (j : Json) :
    Option (Option α) :=
  member none (fun content => (entry content).map some) name j

def Customer.ofJson? (j : Json) : Option Customer := do
  return {
    id := ← member 0 asInt64? "id" j
    name := ← member "" asString? "name" j
    email := ← optionalMember asString? "email" j
    tier := ← member "Bronze" asString? "tier" j }

def Review.ofJson? (j : Json) : Option Review := do
  return {
    id := ← member 0 asInt64? "id" j
    stars := ← member 0 asInt64? "stars" j
    body := ← member "" asString? "body" j }

def Product.ofJson? (j : Json) : Option Product := do
  return {
    id := ← member 0 asInt64? "id" j
    sku := ← member Uuid.nil (Value.fromChars? Uuid.read?) "sku" j
    name := ← member "" asString? "name" j
    description := ← optionalMember asString? "description" j
    price := ← member Binary64.zero readFloat? "price" j
    featured := ← member false asBool? "featured" j
    rating := ← member Binary64.zero readFloat? "rating" j
    releasedOn := ← optionalMember (Value.fromChars? Date.readLoose?) "releasedOn" j
    supplier := ← optionalMember Customer.ofJson? "supplier" j
    reviews := ← member [] (asList? Review.ofJson?) "reviews" j }

def OrderItem.ofJson? (j : Json) : Option OrderItem := do
  return {
    id := ← member 0 asInt64? "id" j
    quantity := ← member 0 asInt64? "quantity" j
    product := ← optionalMember Product.ofJson? "product" j }

def Order.ofJson? (j : Json) : Option Order := do
  let id ← member 0 asInt64? "id" j
  let placedAt ← match given? "placedAt" j with
    | some t => Value.fromChars? DateTime.readLoose? t
    | none => Order.defaultPlacedAt? id
  return {
    id := id
    number := ← member "" asString? "number" j
    placedAt := placedAt
    status := ← member "Pending" asString? "status" j
    total := ← member Binary64.zero readFloat? "total" j
    customer := ← optionalMember Customer.ofJson? "customer" j
    items := ← member [] (asList? OrderItem.ofJson?) "items" j }

def Node.ofJson? : Json → Option Node
  | .object members =>
    (members.mapM fun m => (readValue? m.2).map fun v => (m.1, v)).map Node.mk
  | _ => none

def Counter.ofJson? (j : Json) : Option Counter := do
  return {
    id := ← member 0 asInt64? "id" j
    ratio := ← optionalMember readFloat? "ratio" j }

end EntityQuery.Sample
