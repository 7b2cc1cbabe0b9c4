import EntityQuery.Filter.Literal

set_option autoImplicit false

namespace EntityQuery

variable {ι : Type}

inductive FieldType.Holds : FieldType ι → Value → Prop where
  | string (s : String) : Holds .string (.string s)
  | integer (n : Int64) : Holds .integer (.integer n)
  | float {x : Binary64} (finite : x.isFinite = true) : Holds .float (.float x)
  | boolean (b : Bool) : Holds .boolean (.bool b)
  | dateTime (t : DateTime) : Holds .dateTime (.dateTime t)
  | date (d : Date) : Holds .date (.date d)
  | uuid (u : Uuid) : Holds .uuid (.uuid u)
  | variant {variants : List String} {v : String} (mem : v ∈ variants) :
    Holds (.enumeration variants) (.string v)
  | noVariant : Holds (.enumeration []) .null

namespace FieldType

variable {type : FieldType ι}

theorem readTrimmed?_holds {cs : List Char} {v : Value} (h : type.readTrimmed? cs = some v) :
    type.Holds v := by
  cases type with
  | string =>
    cases h
    exact .string _
  | integer =>
    obtain ⟨n, -, rfl⟩ := Option.map_eq_some_iff.1 h
    exact .integer n
  | float =>
    obtain ⟨x, read, rfl⟩ := Option.map_eq_some_iff.1 h
    exact .float (Option.filter_eq_some_iff.1 read).2
  | boolean =>
    obtain ⟨b, -, rfl⟩ := Option.map_eq_some_iff.1 h
    exact .boolean b
  | dateTime =>
    obtain ⟨t, -, rfl⟩ := Option.map_eq_some_iff.1 h
    exact .dateTime t
  | date =>
    obtain ⟨d, -, rfl⟩ := Option.map_eq_some_iff.1 h
    exact .date d
  | uuid =>
    obtain ⟨u, -, rfl⟩ := Option.map_eq_some_iff.1 h
    exact .uuid u
  | enumeration variants =>
    obtain ⟨v, found, rfl⟩ := Option.map_eq_some_iff.1 h
    exact .variant (List.mem_of_find?_eq_some found)
  | object => cases h

theorem defaultValue_holds (h : type.isObject = false) : type.Holds type.defaultValue := by
  cases type with
  | string => exact .string ""
  | integer => exact .integer 0
  | float => exact .float (by decide)
  | boolean => exact .boolean false
  | dateTime => exact .dateTime DateTime.epoch
  | date => exact .date Date.epoch
  | uuid => exact .uuid Uuid.nil
  | enumeration variants =>
    cases variants with
    | nil => exact .noVariant
    | cons v rest => exact .variant List.mem_cons_self
  | object => cases h

end FieldType

end EntityQuery
