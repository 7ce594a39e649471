import GuestDisks.Data.KeyMap
import GuestDisks.Json.Basic
import GuestDisks.Number.Decimal

/-!
# Schemas

A schema says in JSON what form a JSON value has. `Form` is a form, `Definition` a form with the
name that others refer to it by. The schema of a definition carries along the definitions that it
refers to, directly or through others (`Definition.document`).
-/

namespace GuestDisks.Schema

/-- What may be said about a value besides its form. A property with a default may be left out. -/
structure Remark where
  description : Option String := none
  default : Option Json := none

/-- The form of a value. -/
inductive Form
  | text
  /-- A text or null. -/
  | optionalText
  | flag
  | double
  | unsigned (bits : Nat)
  /-- One of the texts listed. -/
  | names (ns : List String)
  /-- A value of a type that is defined elsewhere. -/
  | named (type : String)
  /-- A value of a type that is defined elsewhere, or null. -/
  | optional (type : String)
  /-- An object with the properties listed, and no others if it is closed. -/
  | record (properties : List (String × Remark × Form)) (closed : Bool)
  /-- An object with any keys, whose values are of a type that is defined elsewhere. -/
  | map (type : String)
  | oneOf (alternatives : List (Remark × Form))

/-- A form with a name. -/
structure Definition where
  name : String
  remark : Remark := {}
  form : Form

def Remark.members (r : Remark) : List (String × Json) :=
  (r.description.toList.map fun d => ("description", .string d)) ++
    r.default.toList.map fun j => ("default", j)

/-- The members that name a type of JSON values. -/
def typed (type : String) (more : List (String × Json)) : List (String × Json) :=
  ("type", .string type) :: more

/-- A reference to a definition. -/
def reference (type : String) : Json := .object [("$ref", .string ("#/definitions/" ++ type))]

/-- The texts of a list, as JSON. -/
def strings (ss : List String) : Json := .array (ss.map .string)

/-- The keys of the properties that must be given. -/
def requiredKeys (ps : List (String × Remark × Form)) : List String :=
  (Data.KeyMap.ofList (ps.filter fun p => p.2.1.default.isNone)).keys

/-- The schema of a form with a remark. A reference can hold nothing else, so it is wrapped. -/
def remarked (r : Remark) (f : Form) (members : List (String × Json)) : Json :=
  match f, r.members with
  | .named type, _ :: _ => .object (r.members ++ [("allOf", .array [reference type])])
  | _, _ => .object (r.members ++ members)

mutual

/-- The members that say what a form is. -/
def Form.members : Form → List (String × Json)
  | .text => typed "string" []
  | .optionalText => [("type", strings ["string", "null"])]
  | .flag => typed "boolean" []
  | .double => typed "number" [("format", .string "double")]
  | .unsigned bits =>
    typed "integer" [("format", .string ("uint" ++ Decimal.ofNat bits)), ("minimum", .real .zero)]
  | .names ns => typed "string" [("enum", strings ns)]
  | .named type => [("$ref", .string ("#/definitions/" ++ type))]
  | .optional type => [("anyOf", .array [reference type, .object (typed "null" [])])]
  | .record ps closed =>
    typed "object" <|
      (if (requiredKeys ps).isEmpty then [] else [("required", strings (requiredKeys ps))]) ++
      [("properties", .object (Data.KeyMap.ofList (properties ps)).entries)] ++
      if closed then [("additionalProperties", .boolean false)] else []
  | .map type => typed "object" [("additionalProperties", reference type)]
  | .oneOf fs => [("oneOf", .array (alternatives fs))]

/-- The schemas of properties. -/
def properties : List (String × Remark × Form) → List (String × Json)
  | [] => []
  | (key, r, f) :: ps => (key, remarked r f f.members) :: properties ps

def alternatives : List (Remark × Form) → List Json
  | [] => []
  | (r, f) :: fs => .object (r.members ++ f.members) :: alternatives fs

end

mutual

/-- The types that a form refers to. -/
def Form.references : Form → List String
  | .named type | .optional type | .map type => [type]
  | .record ps _ => propertyReferences ps
  | .oneOf fs => alternativeReferences fs
  | _ => []

def propertyReferences : List (String × Remark × Form) → List String
  | [] => []
  | (_, _, f) :: ps => f.references ++ propertyReferences ps

def alternativeReferences : List (Remark × Form) → List String
  | [] => []
  | (_, f) :: fs => f.references ++ alternativeReferences fs

end

/-- The dialect that the schemas are written in. -/
def dialect : String := "json-schema.org/draft-07/schema#"

namespace Definition

/-- The definitions among some that are reached from names in a number of steps. -/
def reached (all : List Definition) (names : List String) : Nat → List Definition
  | 0 => []
  | steps + 1 =>
    let direct := all.filter fun d => names.contains d.name
    direct ++ reached all (direct.flatMap fun d => d.form.references) steps

/-- The schema of a definition, as a document of its own. -/
def document (all : List Definition) (d : Definition) : Json :=
  let used := Data.KeyMap.ofList <| (reached all d.form.references all.length).map fun u =>
    (u.name, Json.object (u.remark.members ++ u.form.members))
  .object <|
    [("$schema", .string ("http://" ++ dialect)), ("title", .string d.name)] ++
    d.remark.members ++ d.form.members ++
    if used.entries.isEmpty then [] else [("definitions", .object used.entries)]

end Definition

end GuestDisks.Schema
