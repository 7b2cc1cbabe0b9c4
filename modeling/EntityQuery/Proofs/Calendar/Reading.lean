import EntityQuery.Calendar.Reading
import EntityQuery.Proofs.Text.Numeral

set_option autoImplicit false

namespace EntityQuery

open Calendar Text

namespace Calendar

variable {ds cs : List Char} {n width : Nat} {c : Char}

theorem readUpTo?_digits (digit : ∀ c ∈ ds, c.isDigit = true) (some : ds ≠ [])
    (cs : List Char) : readUpTo? ds.length (ds ++ cs) = .some (Nat.ofDigitChars 10 ds 0, cs) := by
  have all : ds.takeWhile Char.isDigit = ds := by
    simpa using takeWhile_digits digit (show Stops [] by simp [Stops])
  simp [readUpTo?, all, some]

theorem readRun?_digits (digit : ∀ c ∈ ds, c.isDigit = true) (some : ds ≠ [])
    (stops : Stops cs) : readRun? (ds ++ cs) = .some (Nat.ofDigitChars 10 ds 0, cs) := by
  rw [readRun?, readUpTo?, List.take_length, takeWhile_digits digit stops]
  simp [some]

theorem readUpTo?_padded (width : Nat) (positive : 0 < width) (fits : n < Nat.pow 10 width)
    (cs : List Char) : readUpTo? width (paddedDigits width n ++ cs) = some (n, cs) := by
  have read := readUpTo?_digits (fun _ => isDigit_of_mem_paddedDigits) (paddedDigits_ne_nil width n)
    cs
  rwa [length_paddedDigits positive fits, ofDigitChars_paddedDigits] at read

theorem readFixed?_padded (width : Nat) (positive : 0 < width) (fits : n < Nat.pow 10 width)
    (cs : List Char) : readFixed? width (paddedDigits width n ++ cs) = some (n, cs) := by
  have size := length_paddedDigits positive fits
  have digit : (paddedDigits width n).all Char.isDigit = true :=
    List.all_eq_true.2 fun _ => isDigit_of_mem_paddedDigits
  rw [readFixed?, List.take_left' size, List.drop_left' size, if_pos ⟨size, digit⟩,
    ofDigitChars_paddedDigits]

theorem readItem?_two (fits : n < 100) (cs : List Char) :
    readItem? 2 (paddedDigits 2 n ++ cs) = some (n, cs) := by
  rw [readItem?, skipBlanks_digits (fun _ => isDigit_of_mem_paddedDigits) (paddedDigits_ne_nil 2 n),
    readUpTo?_padded 2 (by decide) fits]

theorem skipSeparator?_cons (spacing : Spacing) (h : isBlank c = false) (cs : List Char) :
    skipSeparator? spacing c (c :: cs) = some cs := by
  cases spacing <;> simp [skipSeparator?, skipChar?, skipBlanks_cons h]

theorem readYear?_unsigned (digit : ∀ c ∈ (skipBlanks cs).head?, c.isDigit = true) :
    readYear? cs = (readUpTo? 4 (skipBlanks cs)).map fun (n, rest) => ((n : Int), rest) := by
  rw [readYear?]
  split
  next minus => exact absurd (digit '-' (by simp [minus])) (by decide)
  next plus => exact absurd (digit '+' (by simp [plus])) (by decide)
  next => rfl

theorem readYear?_yearChars (year : Int) (ends : c.isDigit = false) (cs : List Char) :
    readYear? (Date.yearChars year ++ c :: cs) = some (year, c :: cs) := by
  have digit : ∀ c ∈ paddedDigits 4 year.natAbs, c.isDigit = true :=
    fun _ => isDigit_of_mem_paddedDigits
  have some := paddedDigits_ne_nil 4 year.natAbs
  have run := readRun?_digits digit some (show Stops (c :: cs) from stops_cons ends)
  rw [ofDigitChars_paddedDigits] at run
  rw [Date.yearChars]
  by_cases plain : 0 ≤ year ∧ year ≤ 9999
  next =>
    have four := readUpTo?_padded 4 (by decide) (show year.natAbs < 10000 by omega) (c :: cs)
    have start := skipBlanks_digits digit some (c :: cs)
    have first : ∀ d ∈ (paddedDigits 4 year.natAbs ++ c :: cs).head?, d.isDigit = true := by
      rw [List.head?_append_of_ne_nil _ some]
      exact fun d mem => digit d (List.mem_of_mem_head? mem)
    rw [if_pos plain, readYear?_unsigned (by rwa [start]), start, four]
    simp only [Option.map_some, Option.some.injEq, Prod.mk.injEq, and_true]
    omega
  next =>
    rw [if_neg plain, List.cons_append]
    by_cases below : year < 0
    next =>
      rw [if_pos below, readYear?, skipBlanks_cons (by decide)]
      simp only [run, Option.map_some, Option.some.injEq, Prod.mk.injEq, and_true]
      omega
    next =>
      rw [if_neg below, readYear?, skipBlanks_cons (by decide)]
      simp only [run, Option.map_some, Option.some.injEq, Prod.mk.injEq, and_true]
      omega

theorem daysInMonth_le (year : Int) (month : Nat) : daysInMonth year month ≤ 31 := by
  unfold daysInMonth
  split_ifs <;> omega

theorem readDate?_toChars (spacing : Spacing) (d : Date) (cs : List Char) :
    readDate? spacing (d.toChars ++ cs) = some (d, cs) := by
  obtain ⟨-, -, -, month, -, day⟩ := d.isDay
  have days := daysInMonth_le d.year d.month
  have year := readYear?_yearChars d.year (c := '-') (by decide)
  have hyphen := skipSeparator?_cons spacing (c := '-') (by decide)
  have valid : Date.ofParts? d.year d.month d.day = some d := dif_pos d.isDay
  simp [readDate?, Date.toChars, year, hyphen, readItem?_two (show d.month < 100 by omega),
    readItem?_two (show d.day < 100 by omega), valid]

theorem readClock?_padded (spacing : Spacing) {hour minute second : Nat} (h : hour < 100)
    (m : minute < 100) (s : second < 100) (cs : List Char) :
    readClock? spacing (paddedDigits 2 hour ++ ':' :: (paddedDigits 2 minute ++
      ':' :: (paddedDigits 2 second ++ cs))) = some ((hour, minute, second), cs) := by
  have colon := skipSeparator?_cons spacing (c := ':') (by decide)
  simp [readClock?, colon, readItem?_two h, readItem?_two m, readItem?_two s]

theorem readFraction?_padded (width : Nat) (positive : 0 < width) (short : width ≤ 9)
    (fits : n < Nat.pow 10 width) {nano : Nat} (scaled : n * Nat.pow 10 (9 - width) = nano)
    (stops : Stops cs) :
    readFraction? ('.' :: (paddedDigits width n ++ cs)) = some (nano, cs) := by
  have size := length_paddedDigits positive fits
  have nine : (paddedDigits width n).take 9 = paddedDigits width n :=
    List.take_of_length_le (by omega)
  rw [readFraction?, takeWhile_digits (fun _ => isDigit_of_mem_paddedDigits) stops, nine, size,
    ofDigitChars_paddedDigits, List.drop_left' size, scaled]
  exact if_neg (paddedDigits_ne_nil width n)

theorem readFraction?_fractionChars {nano : Nat} (h : nano < billion) (digit : c.isDigit = false)
    (point : c ≠ '.') (cs : List Char) :
    readFraction? (DateTime.fractionChars nano ++ c :: cs) = some (nano, c :: cs) := by
  have stops : Stops (c :: cs) := stops_cons digit
  rw [billion] at h
  rw [DateTime.fractionChars]
  split_ifs with none thousandths millionths
  next =>
    subst none
    rw [List.nil_append, readFraction?.eq_def]
    split
    next same => exact absurd (List.head_eq_of_cons_eq same) point
    next => rfl
  next =>
    exact readFraction?_padded 3 (by decide) (by decide) (show nano / 1000000 < 1000 by omega)
      (show nano / 1000000 * 1000000 = nano by omega) stops
  next =>
    exact readFraction?_padded 6 (by decide) (by decide) (show nano / 1000 < 1000000 by omega)
      (show nano / 1000 * 1000 = nano by omega) stops
  next =>
    exact readFraction?_padded 9 (by decide) (by decide) h (Nat.mul_one nano) stops

end Calendar

namespace Date

theorem toChars_solid (d : Date) : Solid d.toChars := by
  have hyphen : isBlank '-' = false := by decide
  have plus : isBlank '+' = false := by decide
  have year : Solid (yearChars d.year) := by
    rw [yearChars]
    split_ifs <;> simp [hyphen, plus]
  simp [toChars, year, hyphen]

theorem read?_toChars (d : Date) : read? d.toChars = some d := by
  have read := readDate?_toChars .tight d []
  rw [List.append_nil] at read
  rw [read?, read]
  rfl

theorem readLoose?_toText (d : Date) : readLoose? d.toText.toList = some d := by
  have read := readDate?_toChars .loose d []
  rw [List.append_nil] at read
  rw [toText, String.toList_ofList, readLoose?, read]
  rfl

end Date

namespace DateTime

def OnMinute (t : DateTime) : Prop :=
  billion ≤ t.nano → t.second % 60 = 59

theorem isTime_carried {t : DateTime} (off : billion ≤ t.nano ∧ t.second % 60 ≠ 59) :
    IsTime (t.second + 1) (t.nano - billion) := by
  obtain ⟨bound, short⟩ := t.isTime
  rw [secondsPerDay] at bound
  exact ⟨by rw [secondsPerDay]; omega, by omega⟩

/-- The instant that the clock shows at `t`. Second 60 is shown for a leap second in the last second
of a minute only; at any other the clock shows the next second. -/
def carried (t : DateTime) : DateTime :=
  if off : billion ≤ t.nano ∧ t.second % 60 ≠ 59 then
    ⟨t.date, t.second + 1, t.nano - billion, isTime_carried off⟩
  else t

theorem carried_eq_self_iff {t : DateTime} : t.carried = t ↔ t.OnMinute := by
  rw [carried, OnMinute]
  split
  next off =>
    refine iff_of_false (fun same => ?_) fun on => off.2 (on off.1)
    have later : t.second + 1 = t.second := congrArg second same
    omega
  next on =>
    exact iff_of_true rfl fun leap => Decidable.not_not.1 fun last => on ⟨leap, last⟩

theorem ofClock?_clock (t : DateTime) :
    ofClock? t.date (t.second / 3600) (t.second / 60 % 60) (t.second % 60 + t.nano / billion)
      (t.nano % billion) = some t.carried := by
  have valid : ofParts? t.date t.second t.nano = some t := dif_pos t.isTime
  obtain ⟨bound, short⟩ := t.isTime
  rw [secondsPerDay] at bound
  have hour : t.second / 3600 < 24 := by omega
  have minute : t.second / 60 % 60 < 60 := by omega
  have whole : 3600 * (t.second / 3600) + 60 * (t.second / 60 % 60) + t.second % 60 = t.second := by
    omega
  by_cases leap : billion ≤ t.nano
  next =>
    have fraction : t.nano % billion = t.nano - billion := by
      rw [Nat.mod_eq_sub_mod leap, Nat.mod_eq_of_lt (by omega)]
    have begun : t.nano / billion = 1 := Nat.div_eq_of_lt_le (by omega) (by omega)
    rw [ofClock?, fraction, begun, if_pos ⟨hour, minute, by omega⟩]
    by_cases last : t.second % 60 = 59
    next =>
      rw [last] at whole
      rw [carried_eq_self_iff.2 fun _ => last, if_pos (by omega), whole,
        Nat.add_sub_cancel' leap, valid]
    next =>
      have off : billion ≤ t.nano ∧ t.second % 60 ≠ 59 := ⟨leap, last⟩
      rw [carried, dif_pos off, if_neg (by omega), ← Nat.add_assoc, whole]
      exact dif_pos (isTime_carried off)
  next =>
    have fraction : t.nano % billion = t.nano := Nat.mod_eq_of_lt (by omega)
    have none : t.nano / billion = 0 := Nat.div_eq_of_lt (by omega)
    rw [carried_eq_self_iff.2 fun reached => absurd reached leap, ofClock?, fraction, none,
      Nat.add_zero, if_pos ⟨hour, minute, by omega⟩, if_neg (by omega), whole, valid]

theorem atOffset?_zero (t : DateTime) : t.atOffset? 0 = some t := by
  have valid : ofParts? t.date t.second t.nano = some t := dif_pos t.isTime
  have bound := t.isTime.1
  have nonneg : ¬(t.second : Int) < 0 := by omega
  simp [atOffset?, valid, bound, nonneg]

theorem clock_bounds (t : DateTime) :
    t.second / 3600 < 100 ∧ t.second / 60 % 60 < 100 ∧ t.second % 60 + t.nano / billion < 100 ∧
      t.nano % billion < billion := by
  obtain ⟨bound, short⟩ := t.isTime
  rw [secondsPerDay] at bound
  rw [billion] at short ⊢
  omega

theorem toChars_eq (zone : List Char) (t : DateTime) :
    t.toChars zone = t.date.toChars ++ 'T' :: (paddedDigits 2 (t.second / 3600) ++
      ':' :: (paddedDigits 2 (t.second / 60 % 60) ++
        ':' :: (paddedDigits 2 (t.second % 60 + t.nano / billion) ++
          (fractionChars (t.nano % billion) ++ zone)))) := by
  simp only [toChars, List.append_assoc, List.cons_append]

theorem readLoose?_toZuluText (t : DateTime) :
    readLoose? t.toZuluText.toList = some t.carried := by
  obtain ⟨hour, minute, second, below⟩ := t.clock_bounds
  have mark (cs : List Char) : skipTimeMark? ('T' :: cs) = some cs := rfl
  have clock := readClock?_padded .loose hour minute second
  have fraction := readFraction?_fractionChars below (c := 'Z') (by decide) (by decide)
  have blank : skipBlanks ['Z'] = ['Z'] := skipBlanks_cons (by decide) []
  have letter : foldAscii (String.ofList (['Z'].take 3)) ≠ "utc" := by decide
  have zone (gap : List Char → Option (List Char)) : readZone? gap ['Z'] = some (0, []) := rfl
  rw [toZuluText, String.toList_ofList, readLoose?, toChars_eq]
  simp only [readDate?_toChars, mark, clock, fraction, blank, letter, if_false, zone,
    Option.bind_eq_bind, Option.bind_some]
  rw [ofClock?_clock, Option.bind_some, atOffset?_zero, Option.bind_some]
  rfl

theorem fractionChars_solid (nano : Nat) : Solid (fractionChars nano) := by
  have point : isBlank '.' = false := by decide
  rw [fractionChars]
  split_ifs <;> simp [point]

theorem toChars_solid {zone : List Char} (h : Solid zone) (t : DateTime) :
    Solid (t.toChars zone) := by
  have mark : isBlank 'T' = false := by decide
  have colon : isBlank ':' = false := by decide
  simp [toChars, t.date.toChars_solid, fractionChars_solid, h, mark, colon]

def universal : List Char :=
  ['+', '0', '0', ':', '0', '0']

theorem toList_toText (t : DateTime) : t.toText.toList = t.toChars universal :=
  String.toList_ofList

theorem readFraction?_universal {nano : Nat} (h : nano < billion) :
    readFraction? (fractionChars nano ++ universal) = some (nano, universal) :=
  readFraction?_fractionChars h (c := '+') (by decide) (by decide) _

theorem readStrict?_toChars (t : DateTime) (plain : 0 ≤ t.date.year ∧ t.date.year ≤ 9999) :
    readStrict? (t.toChars universal) = some t.carried := by
  obtain ⟨hour, minute, second, below⟩ := t.clock_bounds
  obtain ⟨-, -, -, month, -, day⟩ := t.date.isDay
  have days := daysInMonth_le t.date.year t.date.month
  have four (cs : List Char) := readFixed?_padded 4 (by decide)
    (show t.date.year.natAbs < 10000 by omega) cs
  have two {n : Nat} (fits : n < 100) (cs : List Char) := readFixed?_padded 2 (by decide) fits cs
  have next {α β : Type} (a : α) (f : α → Option β) : (some a >>= f) = f a := rfl
  have skip (c : Char) (cs : List Char) : skipChar? c (c :: cs) = some cs := if_pos rfl
  have mark (cs : List Char) : skipTimeMark? ('T' :: cs) = some cs := rfl
  have zone : readZone? (skipChar? ':') universal = some (0, []) := by decide
  have year : (t.date.year.natAbs : Int) = t.date.year := by omega
  have valid : Date.ofParts? t.date.year t.date.month t.date.day = some t.date :=
    dif_pos t.date.isDay
  rw [readStrict?, toChars_eq, Date.toChars, Date.yearChars, if_pos plain]
  simp only [List.append_assoc, List.cons_append, four, two (show t.date.month < 100 by omega),
    two (show t.date.day < 100 by omega), two hour, two minute, two second, skip, mark,
    readFraction?_universal below, zone, year, valid, next]
  rw [ofClock?_clock, next, atOffset?_zero, next]
  rfl

theorem readStrict?_signed (t : DateTime) (signed : ¬(0 ≤ t.date.year ∧ t.date.year ≤ 9999)) :
    readStrict? (t.toChars universal) = none := by
  have noYear {sign : Char} (apart : sign.isDigit = false) (cs : List Char) :
      readFixed? 4 (sign :: cs) = none := by
    rw [readFixed?, List.take_succ_cons, List.all_cons, apart]
    simp
  rw [readStrict?, toChars_eq, Date.toChars, Date.yearChars, if_neg signed, List.cons_append,
    List.cons_append, List.cons_append, noYear]
  · rfl
  · split <;> decide

theorem readSpaced?_toChars (t : DateTime) : readSpaced? (t.toChars universal) = none := by
  have mark (cs : List Char) : skipBlanks ('T' :: cs) = 'T' :: cs := skipBlanks_cons (by decide) cs
  have noHour (cs : List Char) : readItem? 2 ('T' :: cs) = none := by
    rw [readItem?, mark]
    rfl
  rw [readSpaced?, readPattern?, toChars_eq, readDate?_toChars]
  simp only [Option.bind_eq_bind, Option.bind_some, mark, readClock?, noHour, Option.bind_none]

theorem readLettered?_toChars (t : DateTime) : readLettered? (t.toChars universal) = none := by
  obtain ⟨hour, minute, second, -⟩ := t.clock_bounds
  have clock := readClock?_padded .tight hour minute second
  have mark (cs : List Char) : skipChar? 'T' ('T' :: cs) = some cs := rfl
  -- The zone is left over.
  have more (t' : DateTime) :
      whole? (t', fractionChars (t.nano % billion) ++ universal) = none := by
    cases fractionChars (t.nano % billion) <;> rfl
  rw [readLettered?, readPattern?, toChars_eq, readDate?_toChars]
  simp only [Option.bind_eq_bind, Option.bind_some, mark, clock, more, Option.bind_fun_none]

theorem readDay?_toChars (t : DateTime) : readDay? (t.toChars universal) = none := by
  rw [readDay?, Date.read?, toChars_eq, readDate?_toChars]
  rfl

theorem read?_toChars (t : DateTime) :
    read? (t.toChars universal) =
      if 0 ≤ t.date.year ∧ t.date.year ≤ 9999 then some t.carried else none := by
  rw [read?, readSpaced?_toChars, readLettered?_toChars, readDay?_toChars]
  split
  next plain => simp [t.readStrict?_toChars plain]
  next signed => simp [t.readStrict?_signed signed]

end DateTime

end EntityQuery
