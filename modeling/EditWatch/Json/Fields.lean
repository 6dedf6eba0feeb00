import EditWatch.Json.Basic

/-!
# EditWatch.Json.Fields -- records in JSON

A record with declared fields is written as an object, in the order of the fields. It is read
from an object, where the order is free and unknown members are skipped but a declared field may
not come twice, or from an array that lists the fields in their order; trailing ones may be
missing there if they may be missing at all.
-/

namespace EditWatch.Json

/-- What a text gives for each declared field of a record. -/
structure Fields where
  values : List (String × Option Json)
  deriving Inhabited

namespace Fields

/-- How often a name occurs among the members. -/
def occurrences (name : String) (ms : List (String × Json)) : Nat :=
  (ms.filter fun m => m.1 == name).length

/-- The declared fields out of the members of an object. -/
def ofMembers? (names : List String) (ms : List (String × Json)) : Option Fields :=
  if names.all fun n => occurrences n ms ≤ 1 then
    some ⟨names.map fun n => (n, member? n ms)⟩
  else none

/-- The declared fields out of the items of an array, in order. -/
def ofItems? (names : List String) (items : List Json) : Option Fields :=
  if items.length ≤ names.length then
    some ⟨names.zip (items.map some ++ List.replicate (names.length - items.length) none)⟩
  else none

/-- The field as the text gives it. -/
def get? (fs : Fields) (name : String) : Option Json :=
  match fs.values.find? fun f => f.1 == name with
  | some (_, j) => j
  | none => none

/-- A field that may not be missing. -/
def required? {α : Type} (fs : Fields) (name : String) (value? : Json → Option α) : Option α :=
  match fs.get? name with
  | some j => value? j
  | none => none

/-- A field with a value for the case that it is missing. -/
def withDefault? {α : Type} (fs : Fields) (name : String) (value? : Json → Option α)
    (default : α) : Option α :=
  match fs.get? name with
  | some j => value? j
  | none => some default

/-- A field that is nothing when it is missing or `null`. -/
def optional? {α : Type} (fs : Fields) (name : String) (value? : Json → Option α) :
    Option (Option α) :=
  fs.withDefault? name (Json.optional? value?) none

end Fields

/-- The declared fields of a record, from an object or an array. -/
def fields? (names : List String) : Json → Option Fields
  | .obj ms => Fields.ofMembers? names ms
  | .arr items => Fields.ofItems? names items
  | _ => none

/-- The declared fields of a record that is always written as an object. -/
def objectFields? (names : List String) : Json → Option Fields
  | .obj ms => Fields.ofMembers? names ms
  | _ => none

/-- The members of an object that are not among the declared fields, provided that all of them
are readable. -/
def heldObject? (names : List String) : Json → Option Json
  | .obj ms =>
    let rest := ms.filter fun m => !names.contains m.1
    if readableMembers rest then some (.obj rest) else none
  | _ => none

/-- Whether every member of an object is a declared field. -/
def declaresAll (names : List String) : Json → Bool
  | .obj ms => ms.all fun m => names.contains m.1
  | _ => true

/-! ## Writing -/

/-- A member that is left out when it has no value. -/
def optionalMember (name : String) : Option Json → List (String × Json)
  | some j => [(name, j)]
  | none => []

/-- A member that is left out when its list is empty. -/
def listMember (name : String) : List Json → List (String × Json)
  | [] => []
  | js => [(name, .arr js)]

/-! ## Names -/

/-- How a name of a closed set stands in a text: as a string, or as the only member of an object,
with the value `null`. In a value that was held back until its kind was known, an empty object does
in the place of `null`. -/
inductive Held where
  | direct
  | held
  deriving Repr, DecidableEq

/-- The name that a value gives. -/
def name? (how : Held) : Json → Option String
  | .str s => some s
  | .obj [(k, .null)] => some k
  | .obj [(k, .obj [])] => if how = .held then some k else none
  | _ => none

end EditWatch.Json
