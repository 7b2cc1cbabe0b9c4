import EntityQuery.Binary64.Numeral
import EntityQuery.Entity
import EntityQuery.Sample.Family

set_option autoImplicit false

namespace EntityQuery.Sample

def optionValue {α : Type} (value : α → Value) : Option α → Value
  | some a => value a
  | none => .null

def nestedValue {α : Type} (name : String) (value : α → String → Value) (row : Option α)
    (path : String) : Value :=
  let head := name.toList ++ ['.']
  if head.isPrefixOf path.toList then
    optionValue (fun a => value a (String.ofList (path.toList.drop head.length))) row
  else .null

structure Customer where
  id : Int64
  name : String
  email : Option String
  tier : String

def Customer.value (c : Customer) : String → Value
  | "Id" => .integer c.id
  | "Name" => .string c.name
  | "Email" => optionValue .string c.email
  | "Tier" => .string c.tier
  | _ => .null

structure Review where
  id : Int64
  stars : Int64
  body : String

def Review.value (r : Review) : String → Value
  | "Id" => .integer r.id
  | "Stars" => .integer r.stars
  | "Body" => .string r.body
  | _ => .null

structure Product where
  id : Int64
  sku : Uuid
  name : String
  description : Option String
  price : Binary64
  featured : Bool
  rating : Binary64
  releasedOn : Option Date
  supplier : Option Customer
  reviews : List Review

def Product.value (p : Product) : String → Value
  | "Id" => .integer p.id
  | "Sku" => .uuid p.sku
  | "Name" => .string p.name
  | "Description" => optionValue .string p.description
  | "Price" => .float p.price
  | "Featured" => .bool p.featured
  | "Rating" => .float p.rating
  | "ReleasedOn" => optionValue .date p.releasedOn
  | path => nestedValue "Supplier" Customer.value p.supplier path

structure OrderItem where
  id : Int64
  quantity : Int64
  product : Option Product

def OrderItem.value (i : OrderItem) : String → Value
  | "Id" => .integer i.id
  | "Quantity" => .integer i.quantity
  | _ => .null

structure Order where
  id : Int64
  number : String
  placedAt : DateTime
  status : String
  total : Binary64
  customer : Option Customer
  items : List OrderItem

def Order.value (o : Order) : String → Value
  | "Id" => .integer o.id
  | "Number" => .string o.number
  | "PlacedAt" => .dateTime o.placedAt
  | "Status" => .string o.status
  | "Total" => .float o.total
  | path => nestedValue "Customer" Customer.value o.customer path

def customers : Entity Kind Customer := ⟨Kind.customer.schema, Customer.value⟩

def reviews : Entity Kind Review := ⟨Kind.review.schema, Review.value⟩

def products : Entity Kind Product := ⟨Kind.product.schema, Product.value⟩

def orderItems : Entity Kind OrderItem := ⟨Kind.orderItem.schema, OrderItem.value⟩

def orders : Entity Kind Order := ⟨Kind.order.schema, Order.value⟩

def Product.plain (id : Int64) (name : String) (price : Nat) (featured : Bool)
    (rating : Nat) : Product where
  id := id
  sku := Uuid.nil
  name := name
  description := none
  price := Binary64.ofDecimal false price (-1)
  featured := featured
  rating := Binary64.ofDecimal false rating (-1)
  releasedOn := none
  supplier := none
  reviews := []

def catalogue : List Product :=
  [.plain 1 "Blue Widget" 1200 true 39,
    .plain 2 "Red Widget" 800 true 48,
    { Product.plain 3 "Green Gadget" 1500 false 47 with
      description := some "Glows in the dark" },
    { Product.plain 4 "Yellow Gizmo" 1000 false 21 with
      supplier := some ⟨9, "Acme Supplies", none, "Bronze"⟩ },
    .plain 5 "Purple Doohickey" 400 false 49]

def Order.defaultPlacedAt? (id : Int64) : Option DateTime :=
  DateTime.ofTimestamp? (1700000000 + id.toInt * 86400)

end EntityQuery.Sample
