import EntityQuery.Store.Memory

set_option autoImplicit false

namespace EntityQuery

inductive Terminal where
  | toList
  | first
  | count
  | any
  deriving DecidableEq

inductive Answer (α : Type) where
  | rows (rows : List α)
  | row (row : Option α)
  | count (n : Nat)
  | any (found : Bool)

def Query.materialize {ι α : Type} (E : Entity ι α) (q : Query α) (cancelled : Bool) :
    Terminal → Except StoreError (Answer α)
  | .toList => (q.toList E cancelled).map .rows
  | .first => (q.first E cancelled).map .row
  | .count => (q.count E cancelled).map .count
  | .any => (q.any E cancelled).map .any

def Query.outcome {ι α : Type} (E : Entity ι α) (q : Query α) (cancelled : Bool)
    (terminal : Terminal) : Outcome (Except StoreError (Answer α)) :=
  let run := match terminal with
    | .toList | .count => q
    | .first | .any => q.firstOnly
  .of (run.settles E cancelled) (q.materialize E cancelled terminal)

structure Session (α : Type) where
  store : Store α
  held : List (String × Query α)

namespace Session

variable {ι α : Type}

def start (store : Store α) : Session α :=
  ⟨store, []⟩

def insert (s : Session α) (row : α) : Session α :=
  { s with store := s.store.insert row }

def failWith (s : Session α) (fault : Option StoreError) : Session α :=
  { s with store := s.store.failWith fault }

def hold (s : Session α) (name : String) (q : Query α) : Session α :=
  { s with held := (name, q) :: s.held.filter fun entry => entry.1 ≠ name }

def held? (s : Session α) (name : String) : Option (Query α) :=
  (s.held.find? fun entry => entry.1 = name).map Prod.snd

def release (s : Session α) (name : String) : Session α :=
  { s with held := s.held.filter fun entry => entry.1 ≠ name }

inductive Action (α : Type) where
  | insert (row : α)
  | failWith (fault : Option StoreError)
  | start (name : String)
  | refine (name : String) (r : Refinement)
  | materialize (name : String) (cancelled : Bool) (terminal : Terminal)

def step (E : Entity ι α) (s : Session α) : Action α → Session α
  | .insert row => s.insert row
  | .failWith fault => s.failWith fault
  | .start name => s.hold name s.store.query
  | .refine name r =>
    match s.held? name with
    | some q =>
      match q.refine E r with
      | .ok q => s.hold name q
      -- A refinement that fails uses the query up.
      | .error _ => s.release name
    | none => s
  | .materialize name _ _ => s.release name

def answer? (E : Entity ι α) (s : Session α) : Action α → Option (Except StoreError (Answer α))
  | .materialize name cancelled terminal =>
    (s.held? name).map fun q => q.materialize E cancelled terminal
  | _ => none

def run (E : Entity ι α) (s : Session α) (actions : List (Action α)) : Session α :=
  actions.foldl (step E) s

end Session

end EntityQuery
