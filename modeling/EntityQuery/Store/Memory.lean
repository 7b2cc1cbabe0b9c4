import EntityQuery.Store.Query

set_option autoImplicit false

namespace EntityQuery

structure Store (α : Type) where
  rows : List α
  storeFilter : Option Expr
  fault : Option StoreError

namespace Store

variable {α : Type}

def ofRows (rows : List α) : Store α :=
  ⟨rows, none, none⟩

def withStoreFilter (s : Store α) (e : Expr) : Store α :=
  { s with storeFilter := some e }

def insert (s : Store α) (row : α) : Store α :=
  { s with rows := s.rows ++ [row] }

def size (s : Store α) : Nat :=
  s.rows.length

def isEmpty (s : Store α) : Bool :=
  s.rows.isEmpty

def failWith (s : Store α) (fault : Option StoreError) : Store α :=
  { s with fault := fault }

def query (s : Store α) : Query α :=
  .start s.rows s.storeFilter s.fault

end Store

end EntityQuery
