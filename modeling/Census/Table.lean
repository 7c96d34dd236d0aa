/-! Tables of named values in the order in which the names were first put in. A name put in again
keeps its place; a name that is removed and put in again goes last. What `get?` finds after `put`
and `remove` is all that the order does not tell. -/
namespace Census

abbrev Table (α : Type) := List (String × α)

namespace Table

variable {α : Type}

def get? : Table α → String → Option α
  | [], _ => none
  | (other, b) :: rest, name => if other = name then some b else get? rest name

def has (t : Table α) (name : String) : Bool :=
  t.any (·.1 == name)

def names (t : Table α) : List String :=
  t.map (·.1)

def put : Table α → String → α → Table α
  | [], name, a => [(name, a)]
  | (other, b) :: rest, name, a =>
    if other = name then (name, a) :: rest else (other, b) :: put rest name a

def remove (t : Table α) (name : String) : Table α :=
  t.filter (·.1 != name)

theorem has_iff_mem_names (t : Table α) (name : String) : t.has name = true ↔ name ∈ t.names := by
  simp [has, names]

theorem isSome_get? (t : Table α) (name : String) : (t.get? name).isSome = t.has name := by
  fun_induction get? t name <;> simp_all [has]

theorem get?_put (t : Table α) (name other : String) (a : α) :
    (t.put name a).get? other = if name = other then some a else t.get? other := by
  fun_induction put t name a <;> grind [get?]

theorem get?_remove (t : Table α) (name other : String) :
    (t.remove name).get? other = if name = other then none else t.get? other := by
  induction t with
  | nil => simp [remove, get?]
  | cons entry rest ih => grind [get?, remove]

theorem names_put (t : Table α) (name : String) (a : α) :
    (t.put name a).names = if t.has name then t.names else t.names ++ [name] := by
  fun_induction put t name a <;> grind [has, names]

theorem names_remove (t : Table α) (name : String) :
    (t.remove name).names = t.names.filter (· != name) := by
  simp [remove, names, List.filter_map, Function.comp_def]

end Table

end Census
