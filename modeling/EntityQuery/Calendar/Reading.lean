import EntityQuery.Calendar.DateTime
import EntityQuery.Text.Basic

/-!
Reading dates and instants. `DateTime.readStrict?` takes the standard interchange form only. The
patterned forms are laxer: every number may have blanks before it and fewer digits than its width.
-/

set_option autoImplicit false

namespace EntityQuery

namespace Calendar

open Text

def skipChar? (c : Char) : List Char → Option (List Char)
  | [] => none
  | d :: cs => if d = c then some cs else none

def readFixed? (width : Nat) (cs : List Char) : Option (Nat × List Char) :=
  let ds := cs.take width
  if ds.length = width ∧ ds.all Char.isDigit then some (Nat.ofDigitChars 10 ds 0, cs.drop width)
  else none

def readUpTo? (width : Nat) (cs : List Char) : Option (Nat × List Char) :=
  let ds := (cs.take width).takeWhile Char.isDigit
  if ds = [] then none else some (Nat.ofDigitChars 10 ds 0, cs.drop ds.length)

def readRun? (cs : List Char) : Option (Nat × List Char) :=
  readUpTo? cs.length cs

def readItem? (width : Nat) (cs : List Char) : Option (Nat × List Char) :=
  readUpTo? width (skipBlanks cs)

def readYear? (cs : List Char) : Option (Int × List Char) :=
  match skipBlanks cs with
  | '-' :: rest => (readRun? rest).map fun (n, rest) => (-(n : Int), rest)
  | '+' :: rest => (readRun? rest).map fun (n, rest) => ((n : Int), rest)
  | rest => (readUpTo? 4 rest).map fun (n, rest) => ((n : Int), rest)

inductive Spacing where
  | tight
  | loose
  deriving DecidableEq

def skipSeparator? (spacing : Spacing) (c : Char) (cs : List Char) : Option (List Char) :=
  skipChar? c (match spacing with | .tight => cs | .loose => skipBlanks cs)

def readDate? (spacing : Spacing) (cs : List Char) : Option (Date × List Char) := do
  let (year, cs) ← readYear? cs
  let cs ← skipSeparator? spacing '-' cs
  let (month, cs) ← readItem? 2 cs
  let cs ← skipSeparator? spacing '-' cs
  let (day, cs) ← readItem? 2 cs
  let date ← Date.ofParts? year month day
  return (date, cs)

def readClock? (spacing : Spacing) (cs : List Char) : Option ((Nat × Nat × Nat) × List Char) := do
  let (hour, cs) ← readItem? 2 cs
  let cs ← skipSeparator? spacing ':' cs
  let (minute, cs) ← readItem? 2 cs
  let cs ← skipSeparator? spacing ':' cs
  let (second, cs) ← readItem? 2 cs
  return ((hour, minute, second), cs)

def readFraction? : List Char → Option (Nat × List Char)
  | '.' :: cs =>
    let ds := cs.takeWhile Char.isDigit
    let nine := ds.take 9
    if ds = [] then none
    else some (Nat.ofDigitChars 10 nine 0 * Nat.pow 10 (9 - nine.length), cs.drop ds.length)
  | cs => some (0, cs)

/-- A zone as minutes ahead of universal time: `Z`, or a sign with hours and minutes. `gap` takes
what stands between these two. -/
def readZone? (gap : List Char → Option (List Char)) : List Char → Option (Int × List Char)
  | [] => none
  | c :: cs =>
    if c = 'Z' ∨ c = 'z' then some (0, cs)
    else if c = '+' ∨ c = '-' ∨ c = '−' then do
      let (hours, cs) ← readFixed? 2 cs
      let cs ← gap cs
      let (minutes, cs) ← readFixed? 2 cs
      guard (hours < 24 ∧ minutes < 60)
      let ahead : Int := 60 * hours + minutes
      return (if c = '+' then ahead else -ahead, cs)
    else none

def skipTimeMark? : List Char → Option (List Char)
  | [] => none
  | c :: cs => if c = 'T' ∨ c = 't' ∨ c = ' ' then some cs else none

def whole? {α : Type} : α × List Char → Option α
  | (a, []) => some a
  | (_, _ :: _) => none

end Calendar

open Calendar Text

namespace Date

def read? (cs : List Char) : Option Date :=
  (readDate? .tight cs).bind whole?

def readLoose? (cs : List Char) : Option Date :=
  (readDate? .loose cs).bind fun (d, cs) => whole? (d, skipBlanks cs)

end Date

namespace DateTime

def readStrict? (cs : List Char) : Option DateTime := do
  let (year, cs) ← readFixed? 4 cs
  let cs ← skipChar? '-' cs
  let (month, cs) ← readFixed? 2 cs
  let cs ← skipChar? '-' cs
  let (day, cs) ← readFixed? 2 cs
  let cs ← skipTimeMark? cs
  let (hour, cs) ← readFixed? 2 cs
  let cs ← skipChar? ':' cs
  let (minute, cs) ← readFixed? 2 cs
  let cs ← skipChar? ':' cs
  let (second, cs) ← readFixed? 2 cs
  let (nano, cs) ← readFraction? cs
  let (ahead, cs) ← readZone? (skipChar? ':') cs
  let date ← Date.ofParts? year month day
  let t ← ofClock? date hour minute second nano
  let t ← t.atOffset? ahead
  whole? (t, cs)

def readPattern? (mark : List Char → Option (List Char)) (cs : List Char) : Option DateTime := do
  let (date, cs) ← readDate? .tight cs
  let cs ← mark cs
  let ((hour, minute, second), cs) ← readClock? .tight cs
  let t ← ofClock? date hour minute second 0
  whole? (t, cs)

def readSpaced? (cs : List Char) : Option DateTime :=
  readPattern? (fun cs => some (skipBlanks cs)) cs

def readLettered? (cs : List Char) : Option DateTime :=
  readPattern? (skipChar? 'T') cs

def readDay? (cs : List Char) : Option DateTime :=
  (Date.read? cs).map midnight

def read? (cs : List Char) : Option DateTime :=
  readStrict? cs <|> readSpaced? cs <|> readLettered? cs <|> readDay? cs

def readLoose? (cs : List Char) : Option DateTime := do
  let (date, cs) ← readDate? .loose cs
  let cs ← skipTimeMark? cs
  let ((hour, minute, second), cs) ← readClock? .loose cs
  let (nano, cs) ← readFraction? cs
  let cs := skipBlanks cs
  let (ahead, cs) ←
    if foldAscii (String.ofList (cs.take 3)) = "utc" then some (0, cs.drop 3)
    else readZone? (fun cs => some (cs.dropWhile fun c => c = ':' || isBlank c)) cs
  let t ← ofClock? date hour minute second nano
  let t ← t.atOffset? ahead
  whole? (t, skipBlanks cs)

end DateTime

end EntityQuery
