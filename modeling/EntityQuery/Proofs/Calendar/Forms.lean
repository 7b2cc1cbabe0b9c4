import EntityQuery.Filter.Literal
import EntityQuery.Proofs.Calendar.Reading
import Mathlib.Data.List.DropRight

set_option autoImplicit false

namespace EntityQuery

open Calendar Text

namespace Calendar

variable {cs rest : List Char} {n width : Nat} {c : Char} {spacing : Spacing}

theorem exists_digits_of_readFixed? (read : readFixed? width cs = some (n, rest)) :
    ∃ ds : List Char, ds.length = width ∧ (∀ c ∈ ds, c.isDigit = true) ∧
      Nat.ofDigitChars 10 ds 0 = n ∧ cs = ds ++ rest := by
  rw [readFixed?] at read
  split at read
  next fits =>
    obtain ⟨rfl, rfl⟩ := Prod.mk.inj (Option.some.inj read)
    exact ⟨cs.take width, fits.1, List.all_eq_true.1 fits.2, rfl, (List.take_append_drop ..).symm⟩
  next => cases read

theorem readItem?_of_readFixed? (positive : 0 < width)
    (read : readFixed? width cs = some (n, rest)) : readItem? width cs = some (n, rest) := by
  obtain ⟨ds, rfl, digit, rfl, rfl⟩ := exists_digits_of_readFixed? read
  have some : ds ≠ [] := List.ne_nil_of_length_pos positive
  rw [readItem?, skipBlanks_digits digit some, readUpTo?_digits digit some]

theorem readYear?_of_readFixed? (read : readFixed? 4 cs = some (n, rest)) :
    readYear? cs = some ((n : Int), rest) := by
  have item := readItem?_of_readFixed? (by decide) read
  obtain ⟨ds, size, digit, -, rfl⟩ := exists_digits_of_readFixed? read
  have some : ds ≠ [] := List.ne_nil_of_length_pos (by omega)
  have unsigned : ∀ c ∈ (skipBlanks (ds ++ rest)).head?, c.isDigit = true := by
    rw [skipBlanks_digits digit some, List.head?_append_of_ne_nil _ some]
    exact fun c mem => digit c (List.mem_of_mem_head? mem)
  rw [readYear?_unsigned unsigned, ← readItem?, item]
  rfl

theorem exists_mark_of_skipTimeMark? (skip : skipTimeMark? cs = some rest) :
    ∃ mark, (mark = 'T' ∨ mark = 't' ∨ mark = ' ') ∧ cs = mark :: rest := by
  cases cs with
  | nil => cases skip
  | cons c cs =>
    rw [skipTimeMark?] at skip
    split at skip
    next isMark =>
      cases skip
      exact ⟨c, isMark, rfl⟩
    next => cases skip

theorem readClock?_skipBlanks (cs : List Char) :
    readClock? spacing (skipBlanks cs) = readClock? spacing cs := by
  have once : skipBlanks (skipBlanks cs) = skipBlanks cs :=
    List.dropWhile_idempotent isBlank cs
  simp only [readClock?, readItem?, once]

theorem readClock?_blank (blank : isBlank c = true) (cs : List Char) :
    readClock? spacing (c :: cs) = readClock? spacing cs := by
  have skipped : skipBlanks (c :: cs) = skipBlanks cs := List.dropWhile_cons_of_pos blank
  rw [← readClock?_skipBlanks, skipped, readClock?_skipBlanks]

theorem readClock?_letter (blank : isBlank c = false) (digit : c.isDigit = false)
    (cs : List Char) : readClock? spacing (c :: cs) = none := by
  have noHour : readItem? 2 (c :: cs) = none := by
    rw [readItem?, skipBlanks_cons blank, readUpTo?]
    simp [digit]
  rw [readClock?, noHour]
  rfl

end Calendar

namespace DateTime

inductive Form where
  | strict
  | spaced
  | lettered
  | day
  deriving DecidableEq

namespace Form

def read? : Form → List Char → Option DateTime
  | strict => readStrict?
  | spaced => readSpaced?
  | lettered => readLettered?
  | day => readDay?

inductive Follows : Form → List Char → Prop where
  | strict {mark : Char} {rest zone : List Char} {clock : Nat × Nat × Nat}
    (isMark : mark = 'T' ∨ mark = 't' ∨ mark = ' ')
    (read : readClock? .tight rest = some (clock, zone)) (more : zone ≠ []) :
    Follows strict (mark :: rest)
  | spaced {rest : List Char} {clock : Nat × Nat × Nat}
    (ends : readClock? .tight rest = some (clock, [])) : Follows spaced rest
  | lettered {rest : List Char} {clock : Nat × Nat × Nat}
    (ends : readClock? .tight rest = some (clock, [])) : Follows lettered ('T' :: rest)
  | day : Follows day []

variable {form form' : Form} {order : List Form} {cs rest : List Char} {t t' : DateTime}

theorem readStrict?_follows (h : readStrict? cs = some t) :
    ∃ date rest, readDate? .tight cs = some (date, rest) ∧ strict.Follows rest := by
  obtain ⟨⟨year, _⟩, readYear, h⟩ := Option.bind_eq_some_iff.1 h
  obtain ⟨_, hyphen, h⟩ := Option.bind_eq_some_iff.1 h
  obtain ⟨⟨month, _⟩, readMonth, h⟩ := Option.bind_eq_some_iff.1 h
  obtain ⟨_, hyphen', h⟩ := Option.bind_eq_some_iff.1 h
  obtain ⟨⟨day, behind⟩, readDay, h⟩ := Option.bind_eq_some_iff.1 h
  obtain ⟨rest, skipMark, h⟩ := Option.bind_eq_some_iff.1 h
  obtain ⟨⟨hour, _⟩, readHour, h⟩ := Option.bind_eq_some_iff.1 h
  obtain ⟨_, colon, h⟩ := Option.bind_eq_some_iff.1 h
  obtain ⟨⟨minute, _⟩, readMinute, h⟩ := Option.bind_eq_some_iff.1 h
  obtain ⟨_, colon', h⟩ := Option.bind_eq_some_iff.1 h
  obtain ⟨⟨second, zone⟩, readSecond, h⟩ := Option.bind_eq_some_iff.1 h
  obtain ⟨⟨nano, _⟩, fraction, h⟩ := Option.bind_eq_some_iff.1 h
  obtain ⟨⟨ahead, _⟩, readZone, h⟩ := Option.bind_eq_some_iff.1 h
  obtain ⟨date, valid, -⟩ := Option.bind_eq_some_iff.1 h
  have two : 0 < 2 := by decide
  have dated : readDate? .tight cs = some (date, behind) := by
    simp [readDate?, skipSeparator?, readYear?_of_readFixed? readYear, hyphen,
      readItem?_of_readFixed? two readMonth, hyphen', readItem?_of_readFixed? two readDay, valid]
  have clock : readClock? .tight rest = some ((hour, minute, second), zone) := by
    simp [readClock?, skipSeparator?, readItem?_of_readFixed? two readHour, colon,
      readItem?_of_readFixed? two readMinute, colon', readItem?_of_readFixed? two readSecond]
  have more : zone ≠ [] := by
    rintro rfl
    cases fraction
    cases readZone
  obtain ⟨mark, isMark, rfl⟩ := exists_mark_of_skipTimeMark? skipMark
  exact ⟨date, _, dated, .strict isMark clock more⟩

theorem readPattern?_parts (mark : List Char → Option (List Char))
    (h : readPattern? mark cs = some t) :
    ∃ date rest after clock, readDate? .tight cs = some (date, rest) ∧ mark rest = some after ∧
      readClock? .tight after = some (clock, []) := by
  obtain ⟨⟨date, rest⟩, dated, h⟩ := Option.bind_eq_some_iff.1 h
  obtain ⟨after, marked, h⟩ := Option.bind_eq_some_iff.1 h
  obtain ⟨⟨clock, tail⟩, read, h⟩ := Option.bind_eq_some_iff.1 h
  obtain ⟨t', -, whole⟩ := Option.bind_eq_some_iff.1 h
  cases tail with
  | nil => exact ⟨date, rest, after, clock, dated, marked, read⟩
  | cons c cs => cases whole

theorem readDay?_follows (h : readDay? cs = some t) :
    ∃ date rest, readDate? .tight cs = some (date, rest) ∧ day.Follows rest := by
  obtain ⟨date, read, -⟩ := Option.map_eq_some_iff.1 h
  obtain ⟨⟨date', rest⟩, dated, whole⟩ := Option.bind_eq_some_iff.1 read
  cases rest with
  | nil => exact ⟨date', [], dated, .day⟩
  | cons c cs => cases whole

theorem read?_follows (h : form.read? cs = some t) :
    ∃ date rest, readDate? .tight cs = some (date, rest) ∧ form.Follows rest := by
  cases form with
  | strict => exact readStrict?_follows h
  | spaced =>
    obtain ⟨date, rest, after, clock, dated, skipped, ends⟩ :=
      readPattern?_parts (fun cs => some (skipBlanks cs)) h
    cases skipped
    rw [readClock?_skipBlanks] at ends
    exact ⟨date, rest, dated, .spaced ends⟩
  | lettered =>
    obtain ⟨date, rest, after, clock, dated, marked, ends⟩ :=
      readPattern?_parts (skipChar? 'T') h
    cases rest with
    | nil => cases marked
    | cons c rest =>
      obtain ⟨rfl, same⟩ := Option.ite_none_right_eq_some.1 marked
      cases same
      exact ⟨date, _, dated, .lettered ends⟩
  | day => exact readDay?_follows h

theorem clock_not_zoned {zone : List Char} {clock clock' : Nat × Nat × Nat}
    (read : readClock? .tight rest = some (clock, zone)) (more : zone ≠ []) :
    readClock? .tight rest ≠ some (clock', []) := by
  intro ends
  rw [read] at ends
  cases ends
  exact more rfl

theorem Follows.eq_spaced {clock : Nat × Nat × Nat} (h : form.Follows rest)
    (ends : readClock? .tight rest = some (clock, [])) : form = Form.spaced := by
  cases h with
  | strict isMark read more =>
    rcases isMark with rfl | rfl | rfl
    · rw [readClock?_letter (by decide) (by decide)] at ends
      cases ends
    · rw [readClock?_letter (by decide) (by decide)] at ends
      cases ends
    · -- The blank is skipped, and the clock is the one with a zone behind it.
      rw [readClock?_blank (by decide)] at ends
      exact absurd ends (clock_not_zoned read more)
  | spaced => rfl
  | lettered =>
    rw [readClock?_letter (by decide) (by decide)] at ends
    cases ends
  | day => cases ends

theorem Follows.unique (h : form.Follows rest) (h' : form'.Follows rest) : form = form' := by
  cases h with
  | strict isMark read more =>
    cases h' with
    | strict => rfl
    | spaced ends => exact (Follows.strict isMark read more).eq_spaced ends
    | lettered ends => exact absurd ends (clock_not_zoned read more)
  | spaced ends => exact (h'.eq_spaced ends).symm
  | lettered ends =>
    cases h' with
    | strict _ read more => exact absurd ends (clock_not_zoned read more)
    | spaced ends' => exact (Follows.lettered ends).eq_spaced ends'
    | lettered => rfl
  | day =>
    cases h' with
    | spaced ends => cases ends
    | day => rfl

theorem unique (h : form.read? cs = some t) (h' : form'.read? cs = some t') : form = form' := by
  obtain ⟨date, rest, dated, follows⟩ := read?_follows h
  obtain ⟨date', rest', dated', follows'⟩ := read?_follows h'
  rw [dated] at dated'
  cases dated'
  exact follows.unique follows'

theorem findSome?_eq_some_iff (all : ∀ form, form ∈ order) :
    order.findSome? (fun form => form.read? cs) = some t ↔
      ∃ form : Form, form.read? cs = some t := by
  constructor
  · intro found
    obtain ⟨form, -, read⟩ := List.exists_of_findSome?_eq_some found
    exact ⟨form, read⟩
  · rintro ⟨form, read⟩
    cases found : order.findSome? fun form => form.read? cs with
    | none =>
      have refused := List.findSome?_eq_none_iff.1 found form (all form)
      rw [read] at refused
      cases refused
    | some t' =>
      obtain ⟨form', -, read'⟩ := List.exists_of_findSome?_eq_some found
      obtain rfl := unique read read'
      rw [← read', read]

theorem findSome?_of_order {order' : List Form} (all : ∀ form, form ∈ order)
    (all' : ∀ form, form ∈ order') (cs : List Char) :
    order.findSome? (fun form => form.read? cs) = order'.findSome? fun form => form.read? cs := by
  apply Option.ext
  intro t
  rw [findSome?_eq_some_iff all, findSome?_eq_some_iff all']

def inTurn : List Form :=
  [strict, spaced, lettered, day]

theorem mem_inTurn (form : Form) : form ∈ inTurn := by
  cases form <;> decide

theorem read?_eq_findSome? (cs : List Char) :
    DateTime.read? cs = inTurn.findSome? fun form => form.read? cs := by
  rw [DateTime.read?, inTurn]
  simp only [List.findSome?_cons, List.findSome?_nil, Form.read?]
  cases readStrict? cs <;> cases readSpaced? cs <;> cases readLettered? cs <;>
    cases readDay? cs <;> rfl

end Form

theorem read?_of_date {cs : List Char} {d : Date} (h : Date.read? cs = some d) :
    read? cs = some (midnight d) := by
  rw [Form.read?_eq_findSome?, Form.findSome?_eq_some_iff Form.mem_inTurn]
  refine ⟨.day, ?_⟩
  rw [Form.read?, readDay?, h, Option.map_some]

/-- No text has two forms; whatever the order of the attempts, the outcome is the same; and what is
read as a date is read as the midnight it begins with. -/
theorem one_form_at_most {ι : Type} :
    (∀ cs (form form' : Form) t t', form.read? cs = some t → form'.read? cs = some t' →
        form = form') ∧
      (∀ order : List Form, (∀ form, form ∈ order) →
        ∀ cs, order.findSome? (fun form => form.read? cs) = read? cs) ∧
      ∀ text d, (FieldType.date : FieldType ι).readValue? text = some (.date d) →
        (FieldType.dateTime : FieldType ι).readValue? text = some (.dateTime (midnight d)) := by
  refine ⟨fun cs form form' t t' read read' => Form.unique read read', fun order all cs => ?_,
    fun text d read => ?_⟩
  · rw [Form.read?_eq_findSome?]
    exact Form.findSome?_of_order all Form.mem_inTurn cs
  · obtain ⟨d', read, same⟩ := Option.map_eq_some_iff.1 read
    cases same
    rw [FieldType.readValue?, FieldType.readTrimmed?, read?_of_date read, Option.map_some]

section

def leapDay : Date :=
  ⟨2024, 2, 29, by decide⟩

def afterThree : DateTime :=
  ⟨leapDay, 11045, 0, by decide⟩

-- The day takes two digits, so the third is the hour.
def squeezed : List Char :=
  "2024-2-293:4:5".toList

theorem squeezed_has_one_form :
    Form.spaced.read? squeezed = some afterThree ∧
      (∀ (form : Form) t, form.read? squeezed = some t → .spaced = form) ∧
      (∀ form, form ∈ Form.inTurn.reverse) ∧
      Form.inTurn.reverse.findSome? (fun form => form.read? squeezed) = read? squeezed ∧
      (FieldType.date : FieldType Unit).readValue? " +2024-2- 29\t" = some (.date leapDay) ∧
      (FieldType.dateTime : FieldType Unit).readValue? " +2024-2- 29\t" =
        some (.dateTime (midnight leapDay)) := by
  have spaced : Form.spaced.read? squeezed = some afterThree := by decide +kernel
  have all : ∀ form, form ∈ Form.inTurn.reverse :=
    fun form => List.mem_reverse.2 (Form.mem_inTurn form)
  have dated : (FieldType.date : FieldType Unit).readValue? " +2024-2- 29\t" =
      some (.date leapDay) := by
    decide +kernel
  obtain ⟨unique, anyOrder, midnights⟩ := @one_form_at_most Unit
  exact ⟨spaced, fun form t => unique _ _ form _ t spaced, all, anyOrder _ all _, dated,
    midnights _ _ dated⟩

end

end DateTime

end EntityQuery
