import Mathlib.Tactic.Common

/-! # JSON values and their decoding

`serde_json::Value` as the code reads it, and the part of serde's derived
decoding that the request parameters go through. Objects are association lists
in key order, the order in which a `serde_json::Map` is iterated.
-/

namespace KyomiConnect

/-- A Rust `f64`, by its bits. -/
structure F64 where
  bits : UInt64
deriving DecidableEq, Repr

/-- `serde_json::Number`. -/
inductive Number where
  | posInt (n : UInt64)
  | negInt (n : Int64)
  | float (f : F64)
deriving DecidableEq, Repr

/-- `serde_json::Value`. -/
inductive Json where
  | null
  | bool (b : Bool)
  | number (n : Number)
  | string (s : String)
  | array (items : List Json)
  | object (entries : List (String × Json))

namespace Json

/-! ## Accessors -/

/-- `Value::get` with a key: `None` on anything but an object that has it. -/
def get (key : String) : Json → Option Json
  | .object entries => (entries.find? fun e => e.1 == key).map Prod.snd
  | _ => none

def isNull : Json → Bool
  | .null => true
  | _ => false

def asStr : Json → Option String
  | .string s => some s
  | _ => none

def asBool : Json → Option Bool
  | .bool b => some b
  | _ => none

def asArray : Json → Option (List Json)
  | .array items => some items
  | _ => none

def asU64 : Json → Option UInt64
  | .number (.posInt n) => some n
  | _ => none

/-- `i64::MAX + 1`, that is `2 ^ 63`. -/
def i64Bound : ℕ := 9223372036854775808

def asI64 : Json → Option Int64
  | .number (.posInt n) => if n.toNat < i64Bound then some (Int64.ofNat n.toNat) else none
  | .number (.negInt n) => some n
  | _ => none

/-- `value.get(key)` followed by `as_str`. -/
def getStr (key : String) (v : Json) : Option String := (v.get key).bind asStr

/-- `value.get(key)` followed by `as_array`. -/
def getArray (key : String) (v : Json) : Option (List Json) := (v.get key).bind asArray

/-- A JSON integer from a Rust `i64`. -/
def ofI64 (n : Int64) : Json :=
  if 0 ≤ n.toInt then .number (.posInt (UInt64.ofNat n.toInt.toNat)) else .number (.negInt n)

/-- A JSON integer from a Rust `u32`. -/
def ofU32 (n : UInt32) : Json := .number (.posInt n.toUInt64)

/-- An optional value: `None` is written as `null`. -/
def ofOption {α : Type*} (f : α → Json) : Option α → Json
  | some a => f a
  | none => .null

end Json

/-! ## Objects that are written to -/

/-- Put a value under a key of an object in key order. -/
def insertKey (key : String) (v : Json) : List (String × Json) → List (String × Json)
  | [] => [(key, v)]
  | (k, w) :: rest =>
      if key = k then (key, v) :: rest
      else if key < k then (key, v) :: (k, w) :: rest
      else (k, w) :: insertKey key v rest

theorem get_insertKey_of_ne {key key' : String} (hne : key' ≠ key) (v : Json)
    (entries : List (String × Json)) :
    (Json.object (insertKey key v entries)).get key' = (Json.object entries).get key' := by
  -- entry by entry: the key is replaced where it is first, or comes last
  induction entries with
  | nil => simp [insertKey, Json.get, hne.symm]
  | cons entry rest ih =>
      rcases entry with ⟨k, w⟩
      simp only [Json.get] at ih ⊢
      unfold insertKey
      split
      · rename_i heq
        subst heq
        simp [hne.symm]
      · split
        · simp [List.find?_cons, hne.symm]
        · simp only [List.find?_cons]
          cases hk : k == key'
          · exact ih
          · rfl

theorem get_insertKey_self (key : String) (v : Json) (entries : List (String × Json)) :
    (Json.object (insertKey key v entries)).get key = some v := by
  -- entry by entry: the key is replaced where it is first, or comes last
  induction entries with
  | nil => simp [insertKey, Json.get]
  | cons entry rest ih =>
      rcases entry with ⟨k, w⟩
      unfold insertKey
      split
      · simp [Json.get]
      · rename_i hne
        split
        · simp [Json.get]
        · simp only [Json.get, List.find?_cons] at ih ⊢
          have hk : (k == key) = false := by simpa using fun h => hne h.symm
          rw [hk]
          exact ih

/-! ## Decoding -/

/-- The errors serde's derived decoders report. -/
inductive SerdeError where
  | missingField (name : String)
  | invalidType (unexpected : Json) (expected : String)
  | invalidValue (unexpected : Json) (expected : String)
  | invalidLength (len : ℕ) (expected : String)
  | unknownVariant (name : String) (expected : List String)
  | custom (message : String)

namespace Decode

def string : Json → Except SerdeError String
  | .string s => .ok s
  | v => .error (.invalidType v "a string")

def bool : Json → Except SerdeError Bool
  | .bool b => .ok b
  | v => .error (.invalidType v "a boolean")

def u32 : Json → Except SerdeError UInt32
  | .number (.posInt n) =>
      if n.toNat < UInt32.size then .ok n.toUInt32
      else .error (.invalidValue (.number (.posInt n)) "u32")
  | .number (.negInt n) => .error (.invalidValue (.number (.negInt n)) "u32")
  | v => .error (.invalidType v "u32")

def u64 : Json → Except SerdeError UInt64
  | .number (.posInt n) => .ok n
  | .number (.negInt n) => .error (.invalidValue (.number (.negInt n)) "u64")
  | v => .error (.invalidType v "u64")

def i64 : Json → Except SerdeError Int64
  | .number (.posInt n) =>
      if n.toNat < Json.i64Bound then .ok (Int64.ofNat n.toNat)
      else .error (.invalidValue (.number (.posInt n)) "i64")
  | .number (.negInt n) => .ok n
  | v => .error (.invalidType v "i64")

def option {α : Type} (decode : Json → Except SerdeError α) : Json → Except SerdeError (Option α)
  | .null => .ok none
  | v => (decode v).map some

def vec {α : Type} (decode : Json → Except SerdeError α) : Json → Except SerdeError (List α)
  | .array items => items.mapM decode
  | v => .error (.invalidType v "a sequence")

/-- A field read from an object: absent fields are `none`. -/
def field {α : Type} (entries : List (String × Json)) (name : String)
    (decode : Json → Except SerdeError α) : Except SerdeError (Option α) :=
  match (Json.object entries).get name with
  | some v => (decode v).map some
  | none => .ok none

/-- A field without a default. -/
def required {α : Type} (name : String) : Option α → Except SerdeError α
  | some a => .ok a
  | none => .error (.missingField name)

/-- An element read from a sequence: `none` past its end. -/
def element {α : Type} (items : List Json) (i : ℕ) (decode : Json → Except SerdeError α) :
    Except SerdeError (Option α) :=
  match items[i]? with
  | some v => (decode v).map some
  | none => .ok none

/-- An element without a default. -/
def requiredElement {α : Type} (expected : String) (i : ℕ) : Option α → Except SerdeError α
  | some a => .ok a
  | none => .error (.invalidLength i expected)

/-- A sequence that stands for a struct holds no more than its fields. -/
def noMoreThan (n : ℕ) (items : List Json) : Except SerdeError Unit :=
  if items.length ≤ n then .ok ()
  else .error (.invalidLength items.length "fewer elements in array")

end Decode

end KyomiConnect
