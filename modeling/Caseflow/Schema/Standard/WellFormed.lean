import Caseflow.Schema.Standard.Check

/-!
# Well-formed schemas

A schema is an object or a boolean, and the values of its keywords have the form that each keyword
asks for, at every depth. `fault?` gives the first fault in a fixed order: keywords go by groups,
first those about documents, then those that hold further schemas, then the assertions, then the
annotations; and inside a schema what is nested comes before what holds it.
-/
namespace Caseflow.Schema.Standard

inductive Form
  | schema
  | schemas
  | schemaMap
  | text
  | number
  | positive
  | count
  | boolean
  | list
  | texts
  | types
deriving DecidableEq, Repr

/-- The keywords in the order in which they are checked. -/
def forms : List (String × Form) := [
  ("$anchor", .text), ("$comment", .text), ("$defs", .schemaMap), ("$dynamicAnchor", .text),
  ("$dynamicRef", .text), ("$id", .text), ("$ref", .text), ("$schema", .text),
  ("additionalProperties", .schema), ("allOf", .schemas), ("anyOf", .schemas),
  ("contains", .schema), ("dependentSchemas", .schemaMap), ("else", .schema), ("if", .schema),
  ("items", .schema), ("not", .schema), ("oneOf", .schemas), ("patternProperties", .schemaMap),
  ("prefixItems", .schemas), ("properties", .schemaMap), ("propertyNames", .schema),
  ("then", .schema), ("unevaluatedItems", .schema), ("unevaluatedProperties", .schema),
  ("enum", .list), ("exclusiveMaximum", .number), ("exclusiveMinimum", .number),
  ("maxContains", .count), ("maxItems", .count), ("maxLength", .count), ("maxProperties", .count),
  ("maximum", .number), ("minContains", .count), ("minItems", .count), ("minLength", .count),
  ("minProperties", .count), ("minimum", .number), ("multipleOf", .positive), ("pattern", .text),
  ("required", .texts), ("type", .types), ("uniqueItems", .boolean), ("deprecated", .boolean),
  ("description", .text), ("examples", .list), ("readOnly", .boolean), ("title", .text),
  ("writeOnly", .boolean), ("format", .text), ("contentEncoding", .text),
  ("contentMediaType", .text), ("contentSchema", .schema), ("definitions", .schemaMap)]

def form? (keyword : String) : Option Form := Assoc.get? keyword forms

abbrev Fault := Json × Cause

def faultIf (bad : Bool) (v : Json) (cause : Cause) : Option Fault :=
  if bad then some (v, cause) else none

def typeFault (name : String) (v : Json) : Option Fault :=
  faultIf (!hasType v name) v (.type [name])

def textsFault (v : Json) : Option Fault :=
  match v with
  | .arr items =>
    (items.findSome? (typeFault "string")).or (faultIf (!allDistinct items) v .uniqueItems)
  | v => typeFault "array" v

def isTypes : Json → Bool
  | .str name => typeNames.contains name
  | .arr names =>
    !names.isEmpty && allDistinct names && names.all fun
      | .str name => typeNames.contains name
      | _ => false
  | _ => false

def belowZero : Json → Bool
  | .num n => exactUnits n < 0
  | _ => false

def isZeroOrBelow : Json → Bool
  | .num n => exactUnits n ≤ 0
  | _ => false

/-- The fault of a value in a keyword of some form, apart from what is nested in it. -/
def Form.fault? (form : Form) (v : Json) : Option Fault :=
  match form with
  | schema =>
    match v with
    | .obj _ | .bool _ => none
    | v => some (v, .type ["boolean", "object"])
  | schemas =>
    match v with
    | .arr items => faultIf items.isEmpty v (.minItems 1)
    | v => typeFault "array" v
  | schemaMap => typeFault "object" v
  | text => typeFault "string" v
  | number => typeFault "number" v
  | positive =>
    (faultIf (isZeroOrBelow v) v (.exclusiveMinimum (.int 0))).or (typeFault "number" v)
  | count => (faultIf (belowZero v) v (.minimum (.int 0))).or (typeFault "integer" v)
  | boolean => typeFault "boolean" v
  | list => typeFault "array" v
  | texts => textsFault v
  | types => faultIf (!isTypes v) v (.noneOf "anyOf")

/-- The first fault of an object, given the faults nested in its fields. -/
def objectFault (fields : Fields) (nested : List (String × Option Fault)) : Option Fault :=
  forms.findSome? fun p =>
    (Assoc.get? p.1 fields).bind fun v =>
      ((Assoc.get? p.1 nested).join).or (p.2.fault? v)

mutual

def fault? : Json → Option Fault
  | .obj fields => objectFault fields (nestedFaults fields)
  | .bool _ => none
  | v => some (v, .type ["boolean", "object"])

def nestedFaults : List (String × Json) → List (String × Option Fault)
  | [] => []
  | (k, v) :: rest => (k, nestedFault (form? k) v) :: nestedFaults rest

def nestedFault (form : Option Form) : Json → Option Fault
  | .obj entries =>
    match form with
    | some .schema => objectFault entries (nestedFaults entries)
    | some .schemaMap => entriesFault entries
    | _ => none
  | .arr items => if form = some .schemas then itemsFault items else none
  | _ => none

def itemsFault : List Json → Option Fault
  | [] => none
  | v :: vs => (fault? v).or (itemsFault vs)

def entriesFault : List (String × Json) → Option Fault
  | [] => none
  | (_, v) :: rest => (fault? v).or (entriesFault rest)

end

/-- The form of a keyword whose schemas are checked with the schema itself; shared definitions are
not, they only are when referred to. -/
def checkedForm? (keyword : String) : Option Form :=
  if keyword = "$defs" ∨ keyword = "definitions" then none else form? keyword

/-- The first bad pattern of an object, given those nested in its fields. Named properties come
first where the keyword for additional ones checks them. -/
def badPatternIn (fields : Fields) (nested : List (String × Option String)) : Option String :=
  let named :=
    if coversProperties (Assoc.get? "additionalProperties" fields) then
      (Assoc.get? "properties" nested).join
    else none
  named.or (nested.findSome? (·.2))

mutual

def badPattern? : Json → Option String
  | .obj fields => badPatternIn fields (nestedBadPatterns fields)
  | _ => none

def nestedBadPatterns : List (String × Json) → List (String × Option String)
  | [] => []
  | (k, v) :: rest => (k, badPatternAt k (checkedForm? k) v) :: nestedBadPatterns rest

def badPatternAt (keyword : String) (form : Option Form) : Json → Option String
  | .str p => if keyword = "pattern" && (matcher? p).isNone then some p else none
  | .obj entries =>
    match form with
    | some .schema => badPatternIn entries (nestedBadPatterns entries)
    | some .schemaMap => badPatternOfEntries entries
    | _ => none
  | .arr items => if form = some .schemas then badPatternOfItems items else none
  | _ => none

def badPatternOfEntries : List (String × Json) → Option String
  | [] => none
  | (_, v) :: rest => (badPattern? v).or (badPatternOfEntries rest)

def badPatternOfItems : List Json → Option String
  | [] => none
  | v :: vs => (badPattern? v).or (badPatternOfItems vs)

end

/-- The compiler that knows the common keywords. -/
def compile : Compiler := fun schema =>
  match fault? schema with
  | some (v, cause) => .error (cause.text v)
  | none =>
    match badPattern? schema with
    | some p => .error (Json.quote p ++ " is not a " ++ Json.quote "regex")
    | none => .ok fun value => (checkOf schema [] value).map (·.finding)

end Caseflow.Schema.Standard
