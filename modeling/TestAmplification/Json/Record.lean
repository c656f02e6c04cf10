import TestAmplification.Json.Syntax

/-!
# Records and members in JSON

A record is written as an object with a member for each field, or as an array
of its fields in declared order. In an object members that name no field are
passed over, whatever they hold, and a field may be named once only. Which
fields may be left out depends on their kind:

* a required field always stands;
* a nullable field may be missing from an object, and then has no value;
* a defaulted field may be missing from an object and from the end of an
  array.

Documents that people write by hand are read member by member: a member may be
required, or it may be missing or `null` and then has a default.
-/

set_option autoImplicit false

namespace TestAmplification.Json

/-- When a field may be left out. -/
inductive Presence where
  | required
  | nullable
  | defaulted
deriving DecidableEq

/-- A field of a record. -/
structure Field where
  /-- The name of the field in an object. -/
  name : String
  /-- When the field may be left out. -/
  presence : Presence

/-- The value of a field among named members: nothing inside when the field is
left out, and nothing at all when that is not allowed or the field is named
twice. -/
def memberValue? (members : List (String × Json)) (field : Field) : Option (Option Json) :=
  match members.filter fun member => member.1 == field.name with
  | [] => if field.presence = .required then none else some none
  | [member] => some (some member.2)
  | _ => none

/-- The values of fields that are written in order. -/
def positionValues? : List Field → List Json → Option (List (Option Json))
  | [], [] => some []
  | [], _ :: _ => none
  | field :: fields, [] =>
      if field.presence = .defaulted then (positionValues? fields []).map (none :: ·) else none
  | _ :: fields, value :: values => (positionValues? fields values).map (some value :: ·)

/-- The members of an object with the texts of their names. -/
def namedMembers? (members : List (List Char × Json)) : Option (List (String × Json)) :=
  members.mapM fun member => (textOf? member.1).map fun name => (name, member.2)

/-- The values of the fields of a record, in declared order. -/
def fieldValues? (fields : List Field) : Json → Option (List (Option Json))
  | .object members =>
      (namedMembers? members).bind fun members => fields.mapM (memberValue? members)
  | .array elements => positionValues? fields elements
  | _ => none

/-- Reads a value that may be missing or `null`. -/
def optional? {α : Type} (read : Json → Option α) : Option Json → Option (Option α)
  | none => some none
  | some .null => some none
  | some value => (read value).map some

/-- Reads a value that may be missing, but not `null`. -/
def withDefault? {α : Type} (default : α) (read : Json → Option α) : Option Json → Option α
  | none => some default
  | some value => read value

/-- Reads an array, element by element. -/
def list? {α : Type} (read : Json → Option α) (value : Json) : Option (List α) :=
  value.elements?.bind fun elements => elements.mapM read

variable {α β : Type}

/-! ## Single members -/

/-- The first member of an object with the given name. -/
def member? (value : Json) (name : String) : Option Json :=
  match value with
  | .object members => (members.find? fun entry => textOf? entry.1 == some name).map Prod.snd
  | _ => none

/-- The first member of an object that has other members in front. -/
theorem member?_ofMembers_cons (name other : String) (value : Json)
    (rest : List (String × Json)) :
    (ofMembers ((other, value) :: rest)).member? name =
      if other = name then some value else (ofMembers rest).member? name := by
  simp only [ofMembers, List.map_cons, member?, List.find?_cons, textOf?_spell]
  by_cases same : other = name
  · simp [same]
  · have different : (some other == some name) = false := by simpa using same
    rw [different, if_neg same]

/-- Does an object have a member with the name, be it `null`? -/
def hasMember (value : Json) (name : String) : Bool :=
  (value.member? name).isSome

/-- Reads a member that must be there. -/
def required? (value : Json) (name : String) (read : Json → Option α) : Option α :=
  (value.member? name).bind read

/-- Reads a member that may be missing or `null`. -/
def given? (value : Json) (name : String) (read : Json → Option α) : Option (Option α) :=
  optional? read (value.member? name)

/-- Reads a member that may be missing or `null` in favour of a default. -/
def givenOr? (value : Json) (name : String) (read : Json → Option α) (default : α) : Option α :=
  (value.given? name read).map (·.getD default)

/-- Reads a truth value. -/
def bool? : Json → Option Bool
  | .bool value => some value
  | _ => none

/-- Reads an array of texts. -/
def texts? : Json → Option (List String) :=
  list? text?

/-- Reads an array of two. -/
def pair? (first : Json → Option α) (second : Json → Option β) (value : Json) :
    Option (α × β) :=
  match value.elements? with
  | some [left, right] => do return (← first left, ← second right)
  | _ => none

/-- Reads the members of an object. -/
def members? : Json → Option (List (String × Json))
  | .object members => namedMembers? members
  | _ => none

/-! ## Writing -/

/-- An array of texts. -/
def ofTexts (values : List String) : Json :=
  .array (values.map ofText)

/-- A value, or `null` when there is none. -/
def orNull (write : α → Json) (value : Option α) : Json :=
  (value.map write).getD .null

end TestAmplification.Json
