import EntityQuery.Schema.Basic

set_option autoImplicit false

namespace EntityQuery.Sample

inductive Kind where
  | customer
  | review
  | product
  | orderItem
  | order
  | node
  | counter
  deriving DecidableEq

def tiers : List String := ["Bronze", "Silver", "Gold"]

def orderStatuses : List String := ["Pending", "Shipped", "Delivered", "Cancelled"]

def customer : EntitySchema Kind where
  name := "Customer"
  fields := [.required "Id" .integer, .required "Name" .string, .optional "Email" .string,
    .required "Tier" (.enumeration tiers)]
  relations := []

def review : EntitySchema Kind where
  name := "Review"
  fields := [.required "Id" .integer, .required "Stars" .integer, .required "Body" .string]
  relations := []

def product : EntitySchema Kind where
  name := "Product"
  fields := [.required "Id" .integer, .required "Sku" .uuid, .required "Name" .string,
    .optional "Description" .string, .required "Price" .float, .required "Featured" .boolean,
    .required "Rating" .float, .optional "ReleasedOn" .date,
    .optional "Supplier" (.object .customer)]
  relations := [⟨"Reviews", .collection, .review⟩]

def orderItem : EntitySchema Kind where
  name := "OrderItem"
  fields := [.required "Id" .integer, .required "Quantity" .integer]
  relations := [⟨"Product", .reference, .product⟩]

def order : EntitySchema Kind where
  name := "Order"
  fields := [.required "Id" .integer, .required "Number" .string, .required "PlacedAt" .dateTime,
    .required "Status" (.enumeration orderStatuses), .required "Total" .float,
    .optional "Customer" (.object .customer)]
  relations := [⟨"Customer", .reference, .customer⟩, ⟨"Items", .collection, .orderItem⟩]

def node : EntitySchema Kind where
  name := "Node"
  fields := [.required "Id" .integer, .required "Name" .string, .optional "Note" .string,
    .optional "Count" .integer, .optional "Score" .float, .optional "Flag" .boolean,
    .optional "At" .dateTime, .required "Stamp" .dateTime, .optional "Day" .date,
    .optional "Key" .uuid, .optional "Kind" (.enumeration ["Alpha", "beta", "GAMMA"]),
    .required "Void" (.enumeration []), .required "Unit_Price" .float, .optional "Größe" .string,
    .optional "Parent" (.object .node), .required "Owner" (.object .customer)]
  relations := [⟨"Parent", .reference, .node⟩, ⟨"Children", .collection, .node⟩,
    ⟨"Owner", .reference, .customer⟩, ⟨"Products", .collection, .product⟩]

def counter : EntitySchema Kind where
  name := "Counter"
  fields := [.required "Id" .integer, .optional "Ratio" .float]
  relations := []

def family : Kind → EntitySchema Kind
  | .customer => customer
  | .review => review
  | .product => product
  | .orderItem => orderItem
  | .order => order
  | .node => node
  | .counter => counter

def Kind.schema (kind : Kind) : Schema Kind :=
  ⟨family, kind⟩

def Kind.all : List Kind :=
  [.customer, .review, .product, .orderItem, .order, .node, .counter]

def Kind.ofName? (name : String) : Option Kind :=
  all.find? fun kind => kind.schema.name = name

end EntityQuery.Sample
