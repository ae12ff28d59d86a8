import Mathlib.Data.List.Basic

/-!
# JSON values

`Json` is `serde_json::Value`, the value every handler of the gate reads requests, chips
and receipts as.  An object is the list of its members; a value `serde_json` builds
holds each key once, and a lookup returns the first member with the key.  A number is
held as `serde_json::Number` holds it: a non-negative integer fitting `u64`, a negative
integer fitting `i64`, or an `f64`, kept as its bit pattern since nothing here computes
with it.  The accessors are those of `serde_json::Value` the handlers use.
-/

namespace UblGate

/-- `serde_json::Number`. -/
inductive Number where
  | posInt (n : Nat)
  | negInt (n : Int)
  | float (bits : Nat)
  deriving DecidableEq, Repr

/-- `serde_json::Value`. -/
inductive Json where
  | null
  | bool (b : Bool)
  | number (n : Number)
  | string (s : String)
  | array (xs : List Json)
  | object (fields : List (String × Json))
  deriving Repr, Inhabited

namespace Json

/-- `Value::get` with a key: the member of an object, `none` on any other value. -/
def get : Json → String → Option Json
  | object fields, k => fields.lookup k
  | _, _ => none

/-- `Value::as_str`. -/
def asStr : Json → Option String
  | string s => some s
  | _ => none

/-- `Value::as_bool`. -/
def asBool : Json → Option Bool
  | bool b => some b
  | _ => none

/-- `Value::as_u64`: a non-negative integer. -/
def asU64 : Json → Option Nat
  | number (.posInt n) => some n
  | _ => none

/-- `Value::as_array`. -/
def asArray : Json → Option (List Json)
  | array xs => some xs
  | _ => none

/-- `Value::as_object`. -/
def asObject : Json → Option (List (String × Json))
  | object fields => some fields
  | _ => none

/-- An integer as `serde_json` holds it: non-negative ones as `u64`, negative ones as `i64`. -/
def ofInt (i : Int) : Json :=
  if 0 ≤ i then number (.posInt i.toNat) else number (.negInt i)

/-- `value.get(k).and_then(|v| v.as_str())`, the way every handler reads a string member. -/
def getStr (v : Json) (k : String) : Option String :=
  (v.get k).bind asStr

/-- `Ord for String`, the order of a `BTreeMap<String, _>`: code points compared
lexicographically.  The instance is named so that no order on `String` declared later
changes what the map does. -/
def keyLt (a b : String) : Bool :=
  @decide _ (String.decLt a b)

/-- `Map::insert` on the members of an object, for `serde_json`'s default map, a `BTreeMap`:
a member with the same key is replaced, otherwise the new member goes in key order. -/
def insertField (k : String) (v : Json) : List (String × Json) → List (String × Json)
  | [] => [(k, v)]
  | (k', v') :: fs =>
    if k = k' then (k, v) :: fs
    else if keyLt k k' then (k, v) :: (k', v') :: fs
    else (k', v') :: insertField k v fs

@[simp] theorem get_object (fields : List (String × Json)) (k : String) :
  (object fields).get k = fields.lookup k
  := rfl

@[simp] theorem asStr_string (s : String) : (string s).asStr = some s := rfl

@[simp] theorem asArray_array (xs : List Json) : (array xs).asArray = some xs := rfl

@[simp] theorem asBool_bool (b : Bool) : (bool b).asBool = some b := rfl

theorem asObject_eq_some {v : Json} {fields : List (String × Json)} :
  v.asObject = some fields ↔ v = object fields
  := by
  cases v <;> simp [asObject]

end Json

end UblGate
