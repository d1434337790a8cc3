/-!
# JSON values

Objects are kept as their members in ascending order of the names, each name once.
-/

namespace ChrootScan

/-- A number: written without fraction and exponent and of at most 64 bits, or a float. -/
inductive JsonNumber
  | natural (n : Nat)
  /-- The number `-n`, `n` not being zero. -/
  | negative (n : Nat)
  | float (f : Float)

inductive Json
  | null
  | bool (b : Bool)
  | number (n : JsonNumber)
  | string (s : String)
  | array (items : List Json)
  | object (members : List (String × Json))

namespace Json

instance : Inhabited Json := ⟨null⟩

/-- Puts a member at its place among members in ascending order, over one of the same name. -/
def insertMember (name : String) (value : Json) : List (String × Json) → List (String × Json)
  | [] => [(name, value)]
  | (n, v) :: rest =>
    if name < n then (name, value) :: (n, v) :: rest
    else if name = n then (name, value) :: rest
    else (n, v) :: insertMember name value rest

/-- The value of a member of an object. -/
def get? (name : String) : Json → Option Json
  | object members => members.lookup name
  | _ => none

/-- An item of an array. -/
def item? (i : Nat) : Json → Option Json
  | array items => items[i]?
  | _ => none

def string? : Json → Option String
  | string s => some s
  | _ => none

def bool? : Json → Option Bool
  | bool b => some b
  | _ => none

def natural? : Json → Option Nat
  | number (.natural n) => some n
  | _ => none

def integer? : Json → Option Int
  | number (.natural n) => some n
  | number (.negative n) => some (-n)
  | _ => none

def array? : Json → Option (List Json)
  | array items => some items
  | _ => none

def members? : Json → Option (List (String × Json))
  | object members => some members
  | _ => none

/-! ## Values as JSON -/

instance : Coe String Json := ⟨string⟩

instance : Coe Bool Json := ⟨bool⟩

instance : Coe Nat Json := ⟨fun n => number (.natural n)⟩

instance : Coe Int Json :=
  ⟨fun i => number (if i < 0 then .negative i.natAbs else .natural i.natAbs)⟩

instance : Coe (List Json) Json := ⟨array⟩

instance : Coe (List String) Json := ⟨fun items => array (items.map string)⟩

/-- A value that may be missing, null in its place. -/
instance {α : Type} [Coe α Json] : Coe (Option α) Json :=
  ⟨fun
    | some a => a
    | none => null⟩

end Json

end ChrootScan
