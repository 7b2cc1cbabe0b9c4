import EntityQuery.Proofs.StableSort
import EntityQuery.Proofs.ValidationErrors
import Mathlib.Data.List.Perm.Basic

set_option autoImplicit false

namespace EntityQuery

theorem flatMap_filter_of_nil {α β : Type} {p : α → Bool} {f : α → List β} {xs : List α}
    (h : ∀ x ∈ xs, p x = false → f x = []) : (xs.filter p).flatMap f = xs.flatMap f := by
  induction xs with
  | nil => rfl
  | cons x xs ih =>
    obtain ⟨first, rest⟩ := List.forall_mem_cons.1 h
    cases kept : p x with
    | true => simp [kept, ih rest]
    | false => simp [kept, ih rest, first kept]

namespace Fault

def text : Fault → String
  | field name message => name ++ " " ++ message
  | base message => message

structure Alike (faults faults' : List Fault) : Prop where
  base : faults.filterMap baseMessage? = faults'.filterMap baseMessage?
  fields : ∀ name, faults.filterMap (messageFor? name) = faults'.filterMap (messageFor? name)

theorem Alike.append {faults faults' : List Fault} (h : Alike faults faults')
    (earlier : List Fault) : Alike (earlier ++ faults) (earlier ++ faults') := by
  refine ⟨?_, fun name => ?_⟩
  · rw [List.filterMap_append, List.filterMap_append, h.base]
  · rw [List.filterMap_append, List.filterMap_append, h.fields]

structure Named (faults : List Fault) (names : List String) : Prop where
  increasing : names.Pairwise (· < ·)
  mem_iff : ∀ name, name ∈ names ↔ faults.filterMap (messageFor? name) ≠ []

theorem Named.unique {faults : List Fault} {names names' : List String} (h : Named faults names)
    (h' : Named faults names') : names = names' := by
  have nodup {names : List String} (increasing : names.Pairwise (· < ·)) : names.Nodup := by
    refine increasing.imp ?_
    rintro name _ less rfl
    exact String.lt_irrefl name less
  have alike : names.Perm names' := by
    rw [List.perm_ext_iff_of_nodup (nodup h.increasing) (nodup h'.increasing)]
    intro name
    rw [h.mem_iff, h'.mem_iff]
  exact alike.eq_of_pairwise (fun _ _ _ _ less more => absurd more (String.lt_asymm less))
    h.increasing h'.increasing

def listing (faults : List Fault) (names : List String) : List String :=
  faults.filterMap baseMessage? ++ names.flatMap fun name =>
    (faults.filterMap (messageFor? name)).map fun message => name ++ " " ++ message

end Fault

namespace ValidationErrors

def fieldFaults (fields : List (String × List String)) : List Fault :=
  fields.flatMap fun entry => entry.2.map (Fault.field entry.1)

def faults (e : ValidationErrors) : List Fault :=
  e.base.map Fault.base ++ fieldFaults e.fields

def extendBy (fields : List (String × List String)) (entry : String × List String) :
    List (String × List String) :=
  extend entry.1 entry.2 fields

structure Relisted (e e' : ValidationErrors) : Prop where
  base : e.base = e'.base
  fields : e.fields.Perm e'.fields

variable {e e' other other' : ValidationErrors} {faults faults' : List Fault}

theorem get?_eq_some_iff (once : e.Once) (name : String) (messages : List String) :
    e.get? name = some messages ↔ (name, messages) ∈ e.fields := by
  rw [get?]
  constructor
  · intro found
    obtain ⟨⟨first, old⟩, listed, rfl⟩ := Option.map_eq_some_iff.1 found
    obtain rfl : first = name := by simpa using List.find?_some listed
    exact List.mem_of_find?_eq_some listed
  · intro mem
    cases found : e.fields.find? fun entry => entry.1 = name with
    | none => exact absurd (List.find?_eq_none.1 found _ mem) (by simp)
    | some entry =>
      have own : entry.1 = name := by simpa using List.find?_some found
      have same := List.inj_on_of_nodup_map once (List.mem_of_find?_eq_some found) mem own
      rw [same, Option.map_some]

theorem Relisted.once (h : e.Relisted e') (once : e.Once) : e'.Once :=
  (h.fields.map Prod.fst).nodup once

theorem Relisted.get? (h : e.Relisted e') (once : e.Once) (name : String) :
    e'.get? name = e.get? name := by
  apply Option.ext
  intro messages
  rw [get?_eq_some_iff once, get?_eq_some_iff (h.once once), h.fields.mem_iff]

theorem get?_eq_flatMap (once : e.Once) (name : String) :
    (e.get? name).getD [] =
      e.fields.flatMap fun entry => if entry.1 = name then entry.2 else [] := by
  obtain ⟨fields, base⟩ := e
  simp only [Once, ValidationErrors.get?] at once ⊢
  induction fields with
  | nil => rfl
  | cons entry rest ih =>
    obtain ⟨new, later⟩ := List.nodup_cons.1 once
    by_cases own : entry.1 = name
    next =>
      have others : ∀ entry ∈ rest, (if entry.1 = name then entry.2 else []) = [] :=
        fun other mem => if_neg fun same => new (List.mem_map.2 ⟨other, mem, same.trans own.symm⟩)
      simp [own, List.flatMap_eq_nil_iff.2 others]
    next => simpa [own] using ih later

theorem Once.holds (once : e.Once) : e.Holds e.faults := by
  refine ⟨?_, fun name => ?_, once⟩
  · rw [ValidationErrors.faults, List.filterMap_append, Fault.baseMessages_base, fieldFaults,
      List.filterMap_flatMap]
    simp only [Fault.baseMessages_field, List.flatMap_eq_nil_iff.2 fun _ _ => rfl, List.append_nil]
  · rw [ValidationErrors.faults, List.filterMap_append, Fault.messagesFor_base, List.nil_append,
      fieldFaults, List.filterMap_flatMap, get?_eq_flatMap once]
    simp only [Fault.messagesFor_field]

theorem Holds.congr (h : e.Holds faults) (alike : Fault.Alike faults faults') :
    e.Holds faults' :=
  ⟨h.base.trans alike.base, fun name => (h.fields name).trans (alike.fields name), h.once⟩

theorem Holds.alike (h : e.Holds faults) (h' : e.Holds faults') : Fault.Alike faults faults' :=
  ⟨h.base.symm.trans h'.base, fun name => (h.fields name).symm.trans (h'.fields name)⟩

theorem Holds.relisted (h : e.Holds faults) (listed : e.Relisted e') : e'.Holds faults := by
  refine ⟨listed.base.symm.trans h.base, fun name => ?_, listed.once h.once⟩
  rw [listed.get? h.once, h.fields]

theorem Holds.extendAll (h : e.Holds faults) (entries : List (String × List String)) :
    { e with fields := entries.foldl extendBy e.fields }.Holds (faults ++ fieldFaults entries) := by
  induction entries generalizing e faults with
  | nil => simpa [fieldFaults] using h
  | cons entry entries ih =>
    have step := ih (h.extend entry.1 entry.2)
    rw [List.append_assoc] at step
    exact step

theorem Holds.merge (h : e.Holds faults) (other : ValidationErrors) :
    (e.merge other).Holds (faults ++ other.faults) := by
  have all := (h.addBases other.base).extendAll other.fields
  rwa [List.append_assoc] at all

def sorted (e : ValidationErrors) : List (String × List String) :=
  stableSort (compareOn Prod.fst) e.fields

theorem sorted_increasing (once : e.Once) : e.sorted.Pairwise fun a b => a.1 < b.1 := by
  have apart : e.sorted.Pairwise fun a b => a.1 ≠ b.1 :=
    List.pairwise_map.1 (((perm_stableSort _ e.fields).map Prod.fst).symm.nodup once)
  refine ((stableSort_sorted (compareOn Prod.fst) e.fields).and apart).imp ?_
  rintro a b ⟨order, differ⟩
  have less : compare a.1 b.1 = .lt := by
    rw [compareOn] at order
    cases outcome : compare a.1 b.1 with
    | lt => rfl
    | eq => exact absurd (Std.LawfulEqOrd.compare_eq_iff_eq.1 outcome) differ
    | gt => rw [outcome] at order; cases order
  exact compareOfLessAndEq_eq_lt.1 less

theorem mem_sorted_iff (once : e.Once) (entry : String × List String) :
    entry ∈ e.sorted ↔ e.get? entry.1 = some entry.2 := by
  rw [sorted, mem_stableSort, get?_eq_some_iff once]

theorem Holds.named (h : e.Holds faults) :
    Fault.Named faults ((e.sorted.filter fun entry => !entry.2.isEmpty).map Prod.fst) := by
  refine ⟨List.pairwise_map.2 ((sorted_increasing h.once).filter _), fun name => ?_⟩
  rw [← h.fields]
  constructor
  · intro mem
    obtain ⟨entry, kept, rfl⟩ := List.mem_map.1 mem
    obtain ⟨listed, some⟩ := List.mem_filter.1 kept
    rw [(mem_sorted_iff h.once entry).1 listed, Option.getD_some]
    simpa using some
  · intro some
    cases found : e.get? name with
    | none => simp [found] at some
    | some messages =>
      rw [found, Option.getD_some] at some
      have listed := (mem_sorted_iff h.once (name, messages)).2 found
      exact List.mem_map.2 ⟨_, List.mem_filter.2 ⟨listed, by simpa using some⟩, rfl⟩

theorem Holds.fullMessages (h : e.Holds faults) :
    ∃ names, Fault.Named faults names ∧ e.fullMessages = Fault.listing faults names := by
  refine ⟨_, h.named, ?_⟩
  have shown : ∀ entry ∈ e.sorted, (!entry.2.isEmpty) = false →
      (faults.filterMap (Fault.messageFor? entry.1)).map (entry.1 ++ " " ++ ·) = [] := by
    intro entry mem empty
    rw [← h.fields, (mem_sorted_iff h.once entry).1 mem]
    simp_all
  rw [Fault.listing, ← h.base, List.flatMap_map, flatMap_filter_of_nil shown,
    ValidationErrors.fullMessages, ← sorted]
  congr 1
  refine List.flatMap_congr fun entry mem => ?_
  rw [← h.fields, (mem_sorted_iff h.once entry).1 mem, Option.getD_some]

inductive Change where
  | note (fault : Fault)
  | merge (other : ValidationErrors) (once : other.Once)

def Change.toFaults : Change → List Fault
  | note fault => [fault]
  | merge other _ => other.faults

/-- What the changes may lead to from an empty collection. Its fields may be found in another order
at any time, and those of a merged collection when it is merged. -/
inductive Reached : List Change → ValidationErrors → Prop where
  | empty : Reached [] empty
  | note {changes : List Change} {e : ValidationErrors} (h : Reached changes e) (fault : Fault) :
    Reached (changes ++ [.note fault]) (e.note fault)
  | merge {changes : List Change} {e other other' : ValidationErrors} (h : Reached changes e)
    (once : other.Once) (listed : other.Relisted other') :
    Reached (changes ++ [.merge other once]) (e.merge other')
  | relisted {changes : List Change} {e e' : ValidationErrors} (h : Reached changes e)
    (listed : e.Relisted e') : Reached changes e'

theorem Reached.holds {changes : List Change} (h : Reached changes e) :
    e.Holds (changes.flatMap Change.toFaults) := by
  induction h with
  | empty => exact empty_holds
  | note h fault ih => simpa [Change.toFaults] using ih.note fault
  | merge h once listed ih =>
    -- The fields of the other collection may be met in any order, but each of them is met once.
    have reordered := (listed.once once).holds.alike (once.holds.relisted listed)
    simpa [Change.toFaults] using (ih.merge _).congr (reordered.append _)
  | relisted h listed ih => exact ih.relisted listed

theorem extend_faults (field : String) (messages : List String)
    (fields : List (String × List String)) :
    (fieldFaults (extend field messages fields)).Perm
      (fieldFaults fields ++ messages.map (Fault.field field)) := by
  induction fields with
  | nil => simp [extend, fieldFaults]
  | cons entry rest ih =>
    rw [extend]
    split
    next own =>
      subst own
      simp only [fieldFaults, List.flatMap_cons, List.map_append, List.append_assoc]
      exact List.perm_append_comm.append_left _
    next =>
      have behind := ih.append_left (entry.2.map (Fault.field entry.1))
      rwa [← List.append_assoc] at behind

theorem extendAll_faults (entries fields : List (String × List String)) :
    (fieldFaults (entries.foldl extendBy fields)).Perm
      (fieldFaults fields ++ fieldFaults entries) := by
  induction entries generalizing fields with
  | nil => simp [fieldFaults]
  | cons entry entries ih =>
    have first := (extend_faults entry.1 entry.2 fields).append_right (fieldFaults entries)
    rw [List.append_assoc] at first
    exact (ih (extendBy fields entry)).trans first

theorem faults_merge (e other : ValidationErrors) :
    (e.merge other).faults.Perm (e.faults ++ other.faults) := by
  calc (e.merge other).faults
      = e.base.map Fault.base ++ (other.base.map Fault.base ++
          fieldFaults (other.fields.foldl extendBy e.fields)) := by
        rw [← List.append_assoc, ← List.map_append]
        rfl
    List.Perm _ (e.base.map Fault.base ++ (other.base.map Fault.base ++
        (fieldFaults e.fields ++ fieldFaults other.fields))) :=
      ((extendAll_faults other.fields e.fields).append_left _).append_left _
    List.Perm _ (e.base.map Fault.base ++ (fieldFaults e.fields ++
        (other.base.map Fault.base ++ fieldFaults other.fields))) :=
      (List.perm_append_comm_assoc _ _ _).append_left _
    _ = e.faults ++ other.faults := (List.append_assoc _ _ _).symm

theorem fullMessages_perm (e : ValidationErrors) :
    e.fullMessages.Perm (e.faults.map Fault.text) := by
  have texts : e.faults.map Fault.text = e.base ++ e.fields.flatMap fun entry =>
      entry.2.map fun message => entry.1 ++ " " ++ message := by
    simp [faults, fieldFaults, List.map_flatMap, Fault.text, Function.comp_def]
  rw [texts]
  exact ((perm_stableSort _ e.fields).flatMap_right _).append_left e.base

theorem fullMessages_merge (e other : ValidationErrors) :
    (e.merge other).fullMessages.Perm (e.fullMessages ++ other.fullMessages) := by
  have merged := (e.faults_merge other).map Fault.text
  rw [List.map_append] at merged
  have parts := e.fullMessages_perm.append other.fullMessages_perm
  exact ((e.merge other).fullMessages_perm.trans merged).trans parts.symm

theorem Holds.fullMessages_eq (h : e.Holds faults) (h' : e'.Holds faults) :
    e.fullMessages = e'.fullMessages := by
  obtain ⟨names, named, messages⟩ := h.fullMessages
  obtain ⟨names', named', messages'⟩ := h'.fullMessages
  rw [messages, messages', named.unique named']

/-- Changes that note the same for each name and for the whole lead to the same messages and the
same text, however they were mixed and wherever the fields stand. -/
theorem messages_from_changes {changes changes' : List Change} (reached : Reached changes e)
    (reached' : Reached changes' e')
    (alike : Fault.Alike (changes.flatMap Change.toFaults) (changes'.flatMap Change.toFaults)) :
    e.fullMessages = e'.fullMessages ∧ e.message = e'.message ∧
      (∃ names, Fault.Named (changes.flatMap Change.toFaults) names ∧
        e.fullMessages = Fault.listing (changes.flatMap Change.toFaults) names) ∧
      ∀ a b : ValidationErrors, (a.merge b).faults.Perm (a.faults ++ b.faults) ∧
        (a.merge b).fullMessages.Perm (a.fullMessages ++ b.fullMessages) := by
  have same : e'.fullMessages = e.fullMessages :=
    reached'.holds.fullMessages_eq (reached.holds.congr alike)
  refine ⟨same.symm, ?_, reached.holds.fullMessages, fun a b => ?_⟩
  · unfold message
    rw [same]
  · exact ⟨faults_merge a b, fullMessages_merge a b⟩

section

def mixed : List Change :=
  [.note (.field "size" "a"), .note (.base "w"), .note (.field "page" "b"),
    .note (.field "size" "c")]

def pageAndSize : ValidationErrors :=
  ⟨[("page", ["b"]), ("size", ["a"])], ["w"]⟩

def sizeAndPage : ValidationErrors :=
  ⟨[("size", ["a"]), ("page", ["b"])], ["w"]⟩

theorem pageAndSize_once : pageAndSize.Once := by
  unfold Once
  decide

def merged : List Change :=
  [.merge pageAndSize pageAndSize_once, .note (.field "size" "c")]

theorem mixed_alike :
    Fault.Alike (mixed.flatMap Change.toFaults) (merged.flatMap Change.toFaults) := by
  refine ⟨rfl, fun name => ?_⟩
  by_cases size : "size" = name
  next =>
    subst size
    decide
  next =>
    -- Without the first message of the size, both lists are the same.
    simp [mixed, merged, Change.toFaults, faults, fieldFaults, pageAndSize, List.filterMap_cons,
      Fault.messageFor?, size]

theorem mixed_and_merged :
    ∃ e e' : ValidationErrors, Reached mixed e ∧ Reached merged e' ∧
      Fault.Alike (mixed.flatMap Change.toFaults) (merged.flatMap Change.toFaults) ∧
      e.fullMessages = ["w", "page b", "size a", "size c"] ∧
      e'.fullMessages = ["w", "page b", "size a", "size c"] := by
  have noted : Reached mixed _ :=
    (((Reached.empty.note (.field "size" "a")).note (.base "w")).note (.field "page" "b")).note
      (.field "size" "c")
  have listed : pageAndSize.Relisted sizeAndPage := ⟨rfl, .swap _ _ _⟩
  have once := (Reached.empty.merge pageAndSize_once listed).note (.field "size" "c")
  obtain ⟨same, -⟩ := messages_from_changes noted once mixed_alike
  refine ⟨_, _, noted, once, mixed_alike, ?_, ?_⟩
  · decide +kernel
  · rw [← same]
    decide +kernel

end

end ValidationErrors

end EntityQuery
