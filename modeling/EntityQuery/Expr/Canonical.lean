import EntityQuery.Expr.Basic
import EntityQuery.Schema.Path

set_option autoImplicit false

namespace EntityQuery.Expr

variable {ι : Type}

def declaredPath (s : Schema ι) (f : String) : String :=
  (s.canonicalPath? f).getD f

-- The names that do not resolve are noted on the way, so one pass finds all of them.
def respellField (s : Schema ι) (f : String) : StateM (List String) String :=
  match s.canonicalPath? f with
  | some declared => return declared
  | none => do
    modify (· ++ [f])
    return f

mutual

def respell (s : Schema ι) : Expr → StateM (List String) Expr
  | const b => return const b
  | compare f op v => return compare (← respellField s f) op v
  | text f op v => return text (← respellField s f) op v
  | null f negated => return null (← respellField s f) negated
  | empty f negated => return empty (← respellField s f) negated
  | oneOf f vs negated => return oneOf (← respellField s f) vs negated
  | and es => return and (← respellAll s es)
  | or es => return or (← respellAll s es)
  | not e => return not (← e.respell s)

def respellAll (s : Schema ι) : List Expr → StateM (List String) (List Expr)
  | [] => return []
  | e :: es => return (← e.respell s) :: (← respellAll s es)

end

def canonicalize (s : Schema ι) (e : Expr) : Except (List String) Expr :=
  match (e.respell s).run [] with
  | (declared, []) => .ok declared
  | (_, unknown) => .error unknown

end EntityQuery.Expr
