set_option autoImplicit false

namespace EntityQuery

variable {α : Type}

def insertDescending (compare : α → α → Ordering) (x : α) : List α → List α
  | [] => [x]
  | y :: ys =>
    -- Equal elements are not passed: that keeps them in order.
    if compare x y = .lt then y :: insertDescending compare x ys else x :: y :: ys

def stableSort (compare : α → α → Ordering) (xs : List α) : List α :=
  (xs.foldl (fun sorted x => insertDescending compare x sorted) []).reverse

def isPreorderOn (compare : α → α → Ordering) (xs : List α) : Bool :=
  xs.all fun a => xs.all fun b => compare a b == (compare b a).swap &&
    xs.all fun c => !(compare a b).isLE || !(compare b c).isLE || (compare a c).isLE

def insertionLimit : Nat := 20

/-- Whether a sort is sure to end as `stableSort` does. Otherwise nothing is promised of it: it may
leave the elements in any order, and it stops the program if it notices that the comparison is no
order of them. -/
def sortSettles (compare : α → α → Ordering) (xs : List α) : Bool :=
  xs.length ≤ insertionLimit || isPreorderOn compare xs

inductive Outcome (β : Type) where
  | returned (result : β)
  | unsettled

def Outcome.of {β : Type} (settled : Bool) (result : β) : Outcome β :=
  if settled then .returned result else .unsettled

end EntityQuery
