import Mathlib

/-!
This module contains JSON values and the accessors of `serde_json::Value`, which answer `none` on a
value of another type.
-/

namespace Json

/--
A JSON number as a reader keeps it: written as an integer, or in any other way.
-/
inductive Number where
  | int (n : Int)
  | float (text : String)
  deriving DecidableEq, Repr

end Json

inductive Json where
  | null
  | bool (b : Bool)
  | num (n : Json.Number)
  | str (s : String)
  | arr (items : List Json)
  | obj (fields : List (String × Json))
  deriving Inhabited

namespace Json

def int (n : Int) : Json := .num (.int n)

def get (j : Json) (key : String) : Option Json :=
  match j with
  | .obj fields => fields.lookup key
  | _ => none

def asStr (j : Json) : Option String :=
  match j with
  | .str s => some s
  | _ => none

def asBool (j : Json) : Option Bool :=
  match j with
  | .bool b => some b
  | _ => none

/--
`Value::as_i64`: a number that was written as an integer and fits.
-/
def asI64 (j : Json) : Option Int :=
  match j with
  | .num (.int n) => if -2 ^ 63 ≤ n ∧ n < 2 ^ 63 then some n else none
  | _ => none

def asArray (j : Json) : Option (List Json) :=
  match j with
  | .arr items => some items
  | _ => none

def asObject (j : Json) : Option (List (String × Json)) :=
  match j with
  | .obj fields => some fields
  | _ => none

/--
A field as `JSON.stringify` writes it: not at all when the value is `undefined`.
-/
def field (name : String) (value : Option Json) : List (String × Json) :=
  match value with
  | some value => [(name, value)]
  | none => []

def setField (j : Json) (name : String) (value : Json) : Json :=
  match j with
  | .obj fields => .obj (fields.map (fun f => if f.1 = name then (name, value) else f))
  | j => j

mutual

/--
Some string or some name of a field has the code point 0 in it, which a `jsonb` column of Postgres refuses.
-/
def hasNul (j : Json) : Bool :=
  match j with
  | .str s => s.toList.contains '\x00'
  | .arr items => itemsHaveNul items
  | .obj fields => fieldsHaveNul fields
  | _ => false

def itemsHaveNul (items : List Json) : Bool :=
  match items with
  | [] => false
  | item :: items => item.hasNul || itemsHaveNul items

def fieldsHaveNul (fields : List (String × Json)) : Bool :=
  match fields with
  | [] => false
  | (name, value) :: fields => name.toList.contains '\x00' || value.hasNul || fieldsHaveNul fields

end

inductive Occurs (v : Json) : Json → Prop where
  | here {fields : List (String × Json)} {name : String} (h : (name, v) ∈ fields) : Occurs v (.obj fields)
  | inField {fields : List (String × Json)} {name : String} {w : Json} (h : (name, w) ∈ fields)
      (hw : Occurs v w) : Occurs v (.obj fields)
  | inItem {items : List Json} {w : Json} (h : w ∈ items) (hw : Occurs v w) : Occurs v (.arr items)

@[simp]
theorem get_obj (fields : List (String × Json)) (key : String)
    : (Json.obj fields).get key = fields.lookup key := rfl

@[simp]
theorem asStr_str (s : String) : (Json.str s).asStr = some s := rfl

@[simp]
theorem asBool_bool (b : Bool) : (Json.bool b).asBool = some b := rfl

@[simp]
theorem asArray_arr (items : List Json) : (Json.arr items).asArray = some items := rfl

@[simp]
theorem asObject_obj (fields : List (String × Json)) : (Json.obj fields).asObject = some fields := rfl

theorem asI64_int {n : Int} (hl : -2 ^ 63 ≤ n) (hu : n < 2 ^ 63) : (Json.int n).asI64 = some n := by
  simp only [int, asI64]
  rw [if_pos ⟨hl, hu⟩]

@[simp]
theorem asStr_eq_some {j : Json} {s : String} : j.asStr = some s ↔ j = .str s := by
  cases j <;> simp [asStr]

theorem mem_of_lookup {fields : List (String × Json)} {name : String} {v : Json}
    (h : fields.lookup name = some v) : (name, v) ∈ fields := by
  obtain ⟨l₁, l₂, rfl, -⟩ := List.lookup_eq_some_iff.mp h
  simp

namespace Occurs

theorem of_get {v j : Json} (name : String) (h : j.get name = some v) : Occurs v j := by
  cases j with
  | obj fields => exact .here (mem_of_lookup h)
  | _ => cases h

theorem of_get_of_occurs {v w j : Json} (name : String) (h : j.get name = some w) (hw : Occurs v w)
    : Occurs v j := by
  cases j with
  | obj fields => exact .inField (mem_of_lookup h) hw
  | _ => cases h

end Occurs

end Json
