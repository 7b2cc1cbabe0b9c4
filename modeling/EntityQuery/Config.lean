import EntityQuery.Error
import EntityQuery.Json.Basic
import EntityQuery.Text.Lowercase
import EntityQuery.Text.Quoted

set_option autoImplicit false

namespace EntityQuery

inductive ParseFailurePolicy where
  | defaultValue
  | noMatch
  deriving DecidableEq

namespace ParseFailurePolicy

def read? (s : String) : Option ParseFailurePolicy :=
  match Text.lower s with
  | "default_value" | "default" | "lenient" => some defaultValue
  | "no_match" | "strict" => some noMatch
  | _ => none

def name : ParseFailurePolicy → String
  | defaultValue => "default_value"
  | noMatch => "no_match"

def ofJson? : Json → Option ParseFailurePolicy :=
  Json.asName? [("default_value", defaultValue), ("no_match", noMatch)]

end ParseFailurePolicy

structure QueryConfig where
  maxFilterItems : Count := 64
  maxFilterGroups : Count := 16
  maxGroupItems : Count := 64
  maxSetValues : Count := 256
  maxValueLength : Count := 1024
  defaultPageSize : Count := 20
  maxPageSize : Count := 1000
  parseFailure : ParseFailurePolicy := .defaultValue
  deriving DecidableEq

namespace QueryConfig

def default : QueryConfig := {}

def readCount (lookup : String → Option String) (key : String) (current : Count) :
    Except ConfigError Count :=
  match lookup key with
  | none => .ok current
  | some raw =>
    match Text.readCount? (Text.trimChars raw.toList) with
    | some n => .ok n
    | none =>
      .error (.invalidValue key
        ("expected a non-negative integer, got " ++ Text.quoted raw))

def readPolicy (lookup : String → Option String) (current : ParseFailurePolicy) :
    Except ConfigError ParseFailurePolicy :=
  match lookup "QSPEC_PARSE_FAILURE" with
  | none => .ok current
  | some raw =>
    match ParseFailurePolicy.read? (Text.trim raw) with
    | some policy => .ok policy
    | none =>
      .error (.invalidValue "QSPEC_PARSE_FAILURE"
        ("expected default_value or no_match, got " ++ Text.quoted raw))

def ofLookup (lookup : String → Option String) : Except ConfigError QueryConfig := do
  -- The first setting that cannot be read is the one reported.
  let maxFilterItems ← readCount lookup "QSPEC_MAX_FILTER_ITEMS" default.maxFilterItems
  let maxFilterGroups ← readCount lookup "QSPEC_MAX_FILTER_GROUPS" default.maxFilterGroups
  let maxGroupItems ← readCount lookup "QSPEC_MAX_GROUP_ITEMS" default.maxGroupItems
  let maxSetValues ← readCount lookup "QSPEC_MAX_SET_VALUES" default.maxSetValues
  let maxValueLength ← readCount lookup "QSPEC_MAX_VALUE_LENGTH" default.maxValueLength
  let defaultPageSize ← readCount lookup "QSPEC_DEFAULT_PAGE_SIZE" default.defaultPageSize
  let maxPageSize ← readCount lookup "QSPEC_MAX_PAGE_SIZE" default.maxPageSize
  let parseFailure ← readPolicy lookup default.parseFailure
  if defaultPageSize = 0 ∨ maxPageSize < defaultPageSize then
    .error (.invalidValue "QSPEC_DEFAULT_PAGE_SIZE"
      ("must be between 1 and max_page_size (" ++
        String.ofList (Text.digits maxPageSize.toNat) ++ ")"))
  else
    .ok { maxFilterItems, maxFilterGroups, maxGroupItems, maxSetValues, maxValueLength,
          defaultPageSize, maxPageSize, parseFailure }

open Json in
def toJson (c : QueryConfig) : Json :=
  object [("max_filter_items", ofCount c.maxFilterItems),
    ("max_filter_groups", ofCount c.maxFilterGroups),
    ("max_group_items", ofCount c.maxGroupItems),
    ("max_set_values", ofCount c.maxSetValues),
    ("max_value_length", ofCount c.maxValueLength),
    ("default_page_size", ofCount c.defaultPageSize),
    ("max_page_size", ofCount c.maxPageSize),
    ("parse_failure", string c.parseFailure.name)]

open Json in
def ofJson? (j : Json) : Option QueryConfig := do
  let [items, groups, groupItems, setValues, valueLength, pageSize, largestPage, policy] ←
    j.fields? ["max_filter_items", "max_filter_groups", "max_group_items", "max_set_values",
      "max_value_length", "default_page_size", "max_page_size", "parse_failure"] | none
  return {
    maxFilterItems := ← optional default.maxFilterItems asCount? items
    maxFilterGroups := ← optional default.maxFilterGroups asCount? groups
    maxGroupItems := ← optional default.maxGroupItems asCount? groupItems
    maxSetValues := ← optional default.maxSetValues asCount? setValues
    maxValueLength := ← optional default.maxValueLength asCount? valueLength
    defaultPageSize := ← optional default.defaultPageSize asCount? pageSize
    maxPageSize := ← optional default.maxPageSize asCount? largestPage
    parseFailure := ← optional default.parseFailure ParseFailurePolicy.ofJson? policy }

end QueryConfig

end EntityQuery
