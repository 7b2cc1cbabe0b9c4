import EntityQuery.ValidationErrors
import Mathlib.Data.List.Nodup

set_option autoImplicit false

namespace EntityQuery

inductive Fault where
  | field (name message : String)
  | base (message : String)
  deriving DecidableEq

namespace Fault

def messageFor? (name : String) : Fault → Option String
  | field other message => if other = name then some message else none
  | base _ => none

def baseMessage? : Fault → Option String
  | field _ _ => none
  | base message => some message

@[simp] theorem baseMessages_base (messages : List String) :
    (messages.map base).filterMap baseMessage? = messages := by
  have each : baseMessage? ∘ base = some := rfl
  rw [List.filterMap_map, each, List.filterMap_some]

@[simp] theorem baseMessages_field (name : String) (messages : List String) :
    (messages.map (field name)).filterMap baseMessage? = [] := by
  simp [baseMessage?]

@[simp] theorem messagesFor_base (name : String) (messages : List String) :
    (messages.map base).filterMap (messageFor? name) = [] := by
  simp [messageFor?]

@[simp] theorem messagesFor_field (other name : String) (messages : List String) :
    (messages.map (field other)).filterMap (messageFor? name) =
      if other = name then messages else [] := by
  rw [List.filterMap_map]
  by_cases same : other = name
  next =>
    have each : messageFor? name ∘ field other = some := funext fun message => if_pos same
    rw [each, List.filterMap_some, if_pos same]
  next =>
    have each : messageFor? name ∘ field other = fun _ => none :=
      funext fun message => if_neg same
    rw [each, if_neg same]
    simp

end Fault

namespace ValidationErrors

def note (e : ValidationErrors) : Fault → ValidationErrors
  | .field name message => e.add name message
  | .base message => e.addBase message

def Once (e : ValidationErrors) : Prop :=
  (e.fields.map Prod.fst).Nodup

structure Holds (e : ValidationErrors) (faults : List Fault) : Prop where
  base : e.base = faults.filterMap Fault.baseMessage?
  fields : ∀ name, (e.get? name).getD [] = faults.filterMap (Fault.messageFor? name)
  once : e.Once

structure Reports (e : ValidationErrors) (faults : List Fault) : Prop where
  base : e.base = faults.filterMap Fault.baseMessage?
  fields : ∀ name messages, e.get? name = some messages ↔
    messages ≠ [] ∧ messages = faults.filterMap (Fault.messageFor? name)
  once : (e.fields.map Prod.fst).Nodup

structure Keeps (later earlier : ValidationErrors) : Prop where
  base : earlier.base <+: later.base
  fields : ∀ name messages, earlier.get? name = some messages →
    ∃ more, later.get? name = some (messages ++ more)

theorem isEmpty_note (e : ValidationErrors) (fault : Fault) : (e.note fault).isEmpty = false := by
  cases fault with
  | base message => simp [note, addBase, isEmpty]
  | field name message =>
    cases fields : e.fields with
    | nil => simp [note, add, isEmpty, extend, fields]
    | cons entry rest =>
      rw [note, add, isEmpty, fields, extend]
      split <;> rfl

theorem isEmpty_foldl_note (faults : List Fault) (e : ValidationErrors) :
    (faults.foldl note e).isEmpty = true ↔ e.isEmpty = true ∧ faults = [] := by
  induction faults generalizing e with
  | nil => simp
  | cons fault faults ih => simp [ih, isEmpty_note]

theorem get?_extend (e : ValidationErrors) (field : String) (messages : List String)
    (name : String) :
    { e with fields := extend field messages e.fields }.get? name =
      if field = name then some ((e.get? name).getD [] ++ messages) else e.get? name := by
  obtain ⟨fields, base⟩ := e
  simp only [get?]
  induction fields with
  | nil => by_cases same : field = name <;> simp [extend, same]
  | cons entry rest ih =>
    obtain ⟨first, old⟩ := entry
    by_cases own : first = field
    next => by_cases same : field = name <;> simp [extend, own, same]
    next =>
      by_cases same : first = name
      next =>
        subst same
        simp [extend, own, Ne.symm own]
      next => simpa [extend, own, same] using ih

theorem get?_add (e : ValidationErrors) (field message name : String) :
    (e.add field message).get? name =
      if field = name then some ((e.get? name).getD [] ++ [message]) else e.get? name :=
  e.get?_extend field [message] name

theorem keys_extend (field : String) (messages : List String)
    (fields : List (String × List String)) :
    (extend field messages fields).map Prod.fst =
      if field ∈ fields.map Prod.fst then fields.map Prod.fst
      else fields.map Prod.fst ++ [field] := by
  induction fields with
  | nil => rfl
  | cons entry rest ih =>
    by_cases own : entry.1 = field
    next => simp [extend, own]
    next =>
      rw [extend, if_neg own, List.map_cons, ih]
      by_cases later : field ∈ rest.map Prod.fst <;> simp_all [Ne.symm own]

theorem nodup_extend (field : String) (messages : List String)
    {fields : List (String × List String)} (once : (fields.map Prod.fst).Nodup) :
    ((extend field messages fields).map Prod.fst).Nodup := by
  rw [keys_extend]
  split
  next => exact once
  next new => exact List.concat_eq_append ▸ once.concat new

variable {e e' : ValidationErrors} {faults more : List Fault}

theorem empty_holds : empty.Holds [] :=
  ⟨rfl, fun _ => rfl, List.nodup_nil⟩

theorem Holds.addBases (h : e.Holds faults) (messages : List String) :
    { e with base := e.base ++ messages }.Holds (faults ++ messages.map Fault.base) := by
  refine ⟨?_, fun name => ?_, h.once⟩
  · rw [List.filterMap_append, Fault.baseMessages_base, h.base]
  · rw [List.filterMap_append, Fault.messagesFor_base, List.append_nil]
    exact h.fields name

theorem Holds.extend (h : e.Holds faults) (field : String) (messages : List String) :
    { e with fields := extend field messages e.fields }.Holds
      (faults ++ messages.map (Fault.field field)) := by
  refine ⟨?_, fun name => ?_, nodup_extend field messages h.once⟩
  · rw [List.filterMap_append, Fault.baseMessages_field, List.append_nil]
    exact h.base
  · rw [List.filterMap_append, Fault.messagesFor_field, get?_extend]
    by_cases same : field = name
    next => rw [if_pos same, if_pos same, h.fields, Option.getD_some]
    next => rw [if_neg same, if_neg same, h.fields, List.append_nil]

theorem Holds.note (h : e.Holds faults) (fault : Fault) :
    (e.note fault).Holds (faults ++ [fault]) := by
  cases fault with
  | base message => exact h.addBases [message]
  | field name message => exact h.extend name [message]

theorem Reports.holds (h : e.Reports faults) : e.Holds faults := by
  refine ⟨h.base, fun name => ?_, h.once⟩
  cases found : e.get? name with
  | some messages => exact ((h.fields name messages).1 found).2
  | none =>
    by_contra some
    rw [(h.fields name _).2 ⟨Ne.symm some, rfl⟩] at found
    cases found

theorem Holds.reports (h : e.Holds faults)
    (some : ∀ name messages, e.get? name = some messages → messages ≠ []) : e.Reports faults := by
  refine ⟨h.base, fun name messages => ?_, h.once⟩
  rw [← h.fields]
  cases found : e.get? name with
  | none => simp
  | some listed =>
    have filled := some name listed found
    simp only [Option.some.injEq, Option.getD_some]
    exact ⟨fun same => same ▸ ⟨filled, rfl⟩, fun same => same.2.symm⟩

theorem empty_reports : empty.Reports [] :=
  empty_holds.reports fun _ _ listed => nomatch listed

theorem Reports.note (h : e.Reports faults) (fault : Fault) :
    (e.note fault).Reports (faults ++ [fault]) := by
  refine (h.holds.note fault).reports fun name messages listed => ?_
  cases fault with
  | base message => exact ((h.fields name messages).1 listed).1
  | field field message =>
    rw [ValidationErrors.note, get?_add] at listed
    split at listed
    next =>
      obtain rfl := Option.some.inj listed
      simp
    next => exact ((h.fields name messages).1 listed).1

theorem Reports.noteAll (h : e.Reports faults) (more : List Fault) :
    (more.foldl ValidationErrors.note e).Reports (faults ++ more) := by
  induction more generalizing e faults with
  | nil => simpa using h
  | cons fault more ih => simpa using ih (h.note fault)

theorem Reports.keeps (h : e.Reports faults) (h' : e'.Reports (faults ++ more)) : e'.Keeps e := by
  constructor
  · rw [h.base, h'.base, List.filterMap_append]
    exact List.prefix_append _ _
  · intro name messages listed
    obtain ⟨some, rfl⟩ := (h.fields name messages).1 listed
    refine ⟨more.filterMap (Fault.messageFor? name), (h'.fields name _).2 ⟨?_, ?_⟩⟩
    · exact List.append_ne_nil_of_left_ne_nil some _
    · rw [List.filterMap_append]

end ValidationErrors

end EntityQuery
