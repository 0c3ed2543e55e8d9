import Caseflow.Query.Ranking
import Caseflow.Binary64.Reading
import Caseflow.Regex.Engine
import Caseflow.Text.Blank
import Caseflow.Digest.Sha256
import Caseflow.Digest.Sha512
import Caseflow.Uuid

/-!
# Functions of the query language

The library of functions a query can call: numbers, strings and collections, conversions, ranges,
digests, name-based identifiers and regular expressions, for which there is an engine. All are
functions of their arguments alone.
-/
namespace Caseflow.Query

open Call

/-- A computed double as a value; overflow is `null`. -/
def numberOrNull : Option Binary64 → Json
  | some x => .num (.ofBinary64 x)
  | none => .null

/-- The sum from left to right; once it overflows it stays so. -/
def total (xs : List Binary64) : Option Binary64 :=
  xs.foldl (fun acc x => acc.bind (·.add? x)) (some .zero)

/-- A rounded value: whole numbers of 9·10^15 and above stay the doubles they are. -/
def rounded (x : Binary64) (whole : Int) : Json :=
  if whole.natAbs < 9000000000000000 then .ofInt whole else .num (.float x)

def isInfix (needle : List Char) : List Char → Bool
  | [] => needle.isEmpty
  | c :: cs => needle.isPrefixOf (c :: cs) || isInfix needle cs

/-- The text whose bytes a digest takes: strings as they are, other values as compact JSON. -/
def digestText : Json → String
  | .str s => s
  | v => v.text

def rangeLength (start stop step : Int) : Nat :=
  if 0 < step then ((stop - start + (step - 1)) / step).toNat
  else ((start - stop + (-step - 1)) / -step).toNat

def groupsJson (groups : Regex.Groups) : Json :=
  .arr (groups.map fun g => (g.map Json.str).getD .null)

def expressionAt (regex : Regex.Engine) (c : Call) (i : Nat) : Result Regex.Expression := do
  match regex (← c.string i) with
  | some expression => pure expression
  | none => c.failure .invalidPattern

/-- The arguments from a position on that are objects, merged; later fields win. -/
def mergeFrom (c : Call) : Nat → Nat → Fields → Result Fields
  | 0, _, acc => .ok acc
  | count + 1, i, acc => do
    mergeFrom c count (i + 1) (Assoc.extend acc (← c.object i))

def firstValue (c : Call) : Nat → Nat → Result Json
  | 0, _ => .ok .null
  | count + 1, i => do
    let v ← c.value i
    if v.isNull then firstValue c count (i + 1) else pure v

def Call.run (regex : Regex.Engine) (c : Call) : Result Json := do
  match c.name with
  | "abs" =>
    c.takes 1 1 "1"
    return .num (.ofBinary64 (← c.number 0).abs)
  | "ceil" =>
    c.takes 1 1 "1"
    let x ← c.number 0
    return rounded x x.ceil
  | "floor" =>
    c.takes 1 1 "1"
    let x ← c.number 0
    return rounded x x.floor
  | "sum" =>
    c.takes 1 1 "1"
    return numberOrNull (total (← c.numbers 0))
  | "avg" =>
    c.takes 1 1 "1"
    let xs ← c.numbers 0
    if xs.isEmpty then return .null
    return numberOrNull ((total xs).bind (·.divNat? xs.length))
  | "max" =>
    c.takes 1 1 "1"
    extremeBy c .gt .ok (← c.array 0)
  | "min" =>
    c.takes 1 1 "1"
    extremeBy c .lt .ok (← c.array 0)
  | "max_by" =>
    c.takes 2 2 "2"
    let key ← c.expression 1
    extremeBy c .gt key (← c.array 0)
  | "min_by" =>
    c.takes 2 2 "2"
    let key ← c.expression 1
    extremeBy c .lt key (← c.array 0)
  | "contains" =>
    c.takes 2 2 "2"
    let needle ← c.value 1
    match ← c.value 0 with
    | .arr items => return .bool (items.any (·.equalValue needle))
    | .str s => return .bool (needle.asString?.any fun n => isInfix n.toList s.toList)
    | v => c.wrong 0 .container v.kindName
  | "starts_with" =>
    c.takes 2 2 "2"
    let s ← c.string 0
    return .bool ((← c.string 1).toList.isPrefixOf s.toList)
  | "ends_with" =>
    c.takes 2 2 "2"
    let s ← c.string 0
    return .bool ((← c.string 1).toList.isSuffixOf s.toList)
  | "join" =>
    c.takes 2 2 "2"
    let glue ← c.string 0
    let parts ← (← c.array 1).mapM fun
      | .str s => pure s
      | v => c.wrong 1 .strings v.kindName
    return .str (String.intercalate glue parts)
  | "length" =>
    c.takes 1 1 "1"
    match ← c.value 0 with
    | .str s => return .ofNat s.length
    | .arr items => return .ofNat items.length
    | .obj fields => return .ofNat fields.length
    | v => c.wrong 0 .measurable v.kindName
  | "reverse" =>
    c.takes 1 1 "1"
    match ← c.value 0 with
    | .str s => return .str (String.ofList s.toList.reverse)
    | .arr items => return .arr items.reverse
    | v => c.wrong 0 .reversible v.kindName
  | "keys" =>
    c.takes 1 1 "1"
    return .arr ((← c.object 0).map fun p => .str p.1)
  | "values" =>
    c.takes 1 1 "1"
    return .arr ((← c.object 0).map (·.2))
  | "merge" => return .obj (← mergeFrom c c.args.length 0 [])
  | "not_null" => firstValue c c.args.length 0
  | "map" =>
    c.takes 2 2 "2"
    let f ← c.expression 0
    return .arr (← (← c.array 1).mapM f)
  | "sort" =>
    c.takes 1 1 "1"
    return .arr (← sortBy c .ok (← c.array 0))
  | "sort_by" =>
    c.takes 2 2 "2"
    let key ← c.expression 1
    return .arr (← sortBy c key (← c.array 0))
  | "to_array" =>
    c.takes 1 1 "1"
    match ← c.value 0 with
    | .arr items => return .arr items
    | v => return .arr [v]
  | "to_string" =>
    c.takes 1 1 "1"
    match ← c.value 0 with
    | .str s => return .str s
    | v => return .str v.text
  | "to_number" =>
    c.takes 1 1 "1"
    match ← c.value 0 with
    | .num n => return .num n
    | .str s => return numberOrNull (Binary64.ofText? (Text.trim s))
    | _ => return .null
  | "type" =>
    c.takes 1 1 "1"
    return .str (← c.value 0).kindName
  | "if" =>
    c.takes 2 3 "2 or 3"
    c.value (if (← c.value 0).isTruthy then 1 else 2)
  | "range" =>
    c.takes 1 3 "1 to 3"
    let (start, stop) ←
      if c.args.length = 1 then do pure ((0 : Int), ← c.integer 0)
      else do pure (← c.integer 0, ← c.integer 1)
    let step ← if c.args.length = 3 then c.integer 2 else pure 1
    if step = 0 then c.failure .zeroStep
    else
      let length := rangeLength start stop step
      if rangeLimit < length then c.failure .tooManyItems
      else return .arr ((List.range length).map fun (i : Nat) => .ofInt (start + i * step))
  | "to_object" =>
    c.takes 1 1 "1"
    let pairs ← (← c.array 0).mapM fun
      | .arr [.str key, value] => pure (key, value)
      | v => c.wrong 0 .pairs v.kindName
    return .mkObj pairs
  | "json_serialize" =>
    c.takes 1 1 "1"
    return .str (← c.value 0).text
  | "json_parse" =>
    c.takes 1 1 "1"
    match Json.parse? (← c.string 0) with
    | some v => return v
    | none => c.failure .invalidJson
  | "sha256" =>
    c.takes 1 1 "1"
    return .str (Digest.Sha256.hex (digestText (← c.value 0)))
  | "sha512" =>
    c.takes 1 1 "1"
    return .str (Digest.Sha512.hex (digestText (← c.value 0)))
  | "uuid" =>
    c.takes 1 2 "1 or 2"
    let space ←
      if c.args.length = 2 then do
        match Uuid.parse? (← c.string 1) with
        | some u => pure u
        | none => c.failure .invalidNamespace
      else pure Uuid.urlNamespace
    return .str (Uuid.ofName space (Digest.utf8 (digestText (← c.value 0)))).text
  | "regex_test" =>
    c.takes 2 2 "2"
    let expression ← expressionAt regex c 1
    return .bool (expression.isMatch (← c.string 0))
  | "regex_match" =>
    c.takes 2 2 "2"
    let expression ← expressionAt regex c 1
    return ((expression.find? (← c.string 0)).map groupsJson).getD .null
  | "regex_match_all" =>
    c.takes 2 2 "2"
    let expression ← expressionAt regex c 1
    return .arr ((expression.findAll (← c.string 0)).map groupsJson)
  | "regex_replace" =>
    c.takes 3 3 "3"
    let expression ← expressionAt regex c 1
    let text ← c.string 0
    return .str (expression.replaceAll text (← c.string 2))
  | name => .error (.unknownFunction name)

end Caseflow.Query
