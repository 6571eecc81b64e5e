import OutOfBand.Decimal.Shortest

/-!
# JSON values

The values that configuration, requests and replies are made of. An object is a list of members in
the order in which they are written; a free object, one whose keys are not fixed by a type, keeps
them sorted and without repetitions (`Json.put`).
-/

namespace OutOfBand

/-- A JSON number: an integer of at most 64 bits, or a double. -/
inductive Number where
  | int (n : Int)
  | real (x : Binary64)
  deriving DecidableEq, Inhabited

/-- A JSON value. -/
inductive Json where
  | null
  | bool (b : Bool)
  | num (n : Number)
  | str (s : String)
  | arr (items : List Json)
  | obj (members : List (String × Json))
  deriving Inhabited

namespace Json

def int (n : Int) : Json := .num (.int n)

/-- The members `members` with `value` under `key`, in place of an earlier value there and else
where the order of the keys asks for it. -/
def put (key : String) (value : α) : List (String × α) → List (String × α)
  | [] => [(key, value)]
  | (k, v) :: members =>
    if key < k then (key, value) :: (k, v) :: members
    else if key = k then (key, value) :: members
    else (k, v) :: put key value members

/-- The members in order of their keys; of several under one key the last. -/
def sorted (members : List (String × α)) : List (String × α) :=
  members.foldl (fun acc m => put m.1 m.2 acc) []

/-- A free object with the given members. -/
def object (members : List (String × Json)) : Json := .obj (sorted members)

/-- The value under `key`, for an object that has one. -/
def get? (j : Json) (key : String) : Option Json :=
  match j with
  | .obj members => (members.find? (·.1 == key)).map (·.2)
  | _ => none

/-- The value under `key`; `null` where there is none. -/
def get (j : Json) (key : String) : Json := (j.get? key).getD .null

/-- The text that the value is, if it is one. -/
def str? : Json → Option String
  | .str s => some s
  | _ => none

/-- The truth value that the value is, if it is one. -/
def bool? : Json → Option Bool
  | .bool b => some b
  | _ => none

/-- The integer that the value is, if it is one. -/
def int? : Json → Option Int
  | .num (.int n) => some n
  | _ => none

/-- The items of an array, if the value is one. -/
def arr? : Json → Option (List Json)
  | .arr items => some items
  | _ => none

def isNull : Json → Bool
  | .null => true
  | _ => false

/-- The value that a path of keys leads to; `null` where it leads nowhere. -/
def path (j : Json) (keys : List String) : Json := keys.foldl get j

end Json

end OutOfBand
