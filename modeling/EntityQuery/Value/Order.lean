import EntityQuery.Binary64.Rounding
import EntityQuery.Value.Basic

set_option autoImplicit false

namespace EntityQuery.Value

def asFloat? : Value → Option Binary64
  | integer n => some (Binary64.ofInt n.toInt)
  | float x => some x
  | _ => none

def compare? : Value → Value → Option Ordering
  | string a, string b => some (compare a b)
  | integer a, integer b => some (compare a.toInt b.toInt)
  | bool a, bool b => some (compare a b)
  | dateTime a, dateTime b => some (a.compare b)
  | date a, date b => some (a.compare b)
  | uuid a, uuid b => some (a.compare b)
  | a, b =>
    match a.asFloat?, b.asFloat? with
    | some x, some y => x.compare? y
    | _, _ => none

def looselyEquals : Value → Value → Bool
  | null, null => true
  | null, _ => false
  | _, null => false
  | a, b => a.compare? b == some .eq

def kindRank : Value → Nat
  | null => 0
  | bool _ => 1
  | integer _ => 2
  | float _ => 2
  | string _ => 3
  | date _ => 4
  | dateTime _ => 5
  | uuid _ => 6

def sortCompare : Value → Value → Ordering
  | integer a, integer b => compare a.toInt b.toInt
  | float a, float b => a.totalCompare b
  | integer a, float b => (Binary64.ofInt a.toInt).totalCompare b
  | float a, integer b => a.totalCompare (Binary64.ofInt b.toInt)
  | a, b => (a.compare? b).getD (compare a.kindRank b.kindRank)

def same : Value → Value → Bool
  | float a, float b => a.numericEq b
  | a, b => a = b

def sameList : List Value → List Value → Bool
  | [], [] => true
  | a :: as, b :: bs => a.same b && sameList as bs
  | _, _ => false

end EntityQuery.Value
