import EntityQuery.Calendar.Date

set_option autoImplicit false

namespace EntityQuery

namespace Calendar

def secondsPerDay : Nat := 86400

def billion : Nat := 1000000000

-- A second that lasts a billion nanoseconds or more is a leap second; any second can be one.
def IsTime (second nano : Nat) : Prop :=
  second < secondsPerDay ∧ nano < 2 * billion

instance (second nano : Nat) : Decidable (IsTime second nano) :=
  inferInstanceAs (Decidable (_ ∧ _))

end Calendar

open Calendar

structure DateTime where
  date : Date
  second : Nat
  nano : Nat
  isTime : IsTime second nano
  deriving DecidableEq

namespace DateTime

def ofParts? (date : Date) (second nano : Nat) : Option DateTime :=
  if h : IsTime second nano then some ⟨date, second, nano, h⟩ else none

def midnight (date : Date) : DateTime := ⟨date, 0, 0, by decide⟩

def epoch : DateTime := midnight Date.epoch

def compare : DateTime → DateTime → Ordering :=
  compareLex (fun a b => Date.compare a.date b.date)
    (compareLex (compareOn DateTime.second) (compareOn DateTime.nano))

def ofClock? (date : Date) (hour minute second nano : Nat) : Option DateTime :=
  if hour < 24 ∧ minute < 60 ∧ second ≤ 60 then
    -- A leap second is one billion nanoseconds into the second before it.
    if second = 60 then ofParts? date (3600 * hour + 60 * minute + 59) (billion + nano)
    else ofParts? date (3600 * hour + 60 * minute + second) nano
  else none

def atOffset? (t : DateTime) (minutes : Int) : Option DateTime :=
  let s : Int := (t.second : Int) - 60 * minutes
  if s < 0 then t.date.pred?.bind fun d => ofParts? d (s + secondsPerDay).toNat t.nano
  else if s < secondsPerDay then ofParts? t.date s.toNat t.nano
  else t.date.succ?.bind fun d => ofParts? d (s - secondsPerDay).toNat t.nano

def ofTimestamp? (n : Int) : Option DateTime :=
  (Date.ofDayNumber? (n / secondsPerDay)).bind fun d => ofParts? d (n % secondsPerDay).toNat 0

def fractionChars (nano : Nat) : List Char :=
  if nano = 0 then []
  else if nano % 1000000 = 0 then '.' :: Text.paddedDigits 3 (nano / 1000000)
  else if nano % 1000 = 0 then '.' :: Text.paddedDigits 6 (nano / 1000)
  else '.' :: Text.paddedDigits 9 nano

def toChars (zone : List Char) (t : DateTime) : List Char :=
  let two := Text.paddedDigits 2
  t.date.toChars ++ 'T' :: two (t.second / 3600) ++ ':' :: two (t.second / 60 % 60) ++
    ':' :: two (t.second % 60 + t.nano / billion) ++ fractionChars (t.nano % billion) ++ zone

def toText (t : DateTime) : String :=
  String.ofList (t.toChars ['+', '0', '0', ':', '0', '0'])

def toZuluText (t : DateTime) : String :=
  String.ofList (t.toChars ['Z'])

end DateTime

end EntityQuery
