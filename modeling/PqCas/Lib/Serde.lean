import PqCas.Lib.Json

/-!
This module contains how `serde` reads the fields of a struct out of a JSON value.
-/

namespace Json

def strings (items : List String) : Json :=
  .arr (items.map .str)

def required {α : Type} (j : Json) (name : String) (f : Json → Option α) : Option α :=
  (j.get name).bind f

/--
`#[serde(default)]`: only a missing field has a default.
-/
def orElse {α : Type} (j : Json) (name : String) (default : α) (f : Json → Option α) : Option α :=
  match j.get name with
  | none => some default
  | some value => f value

/--
An `Option`, which is `None` for a missing field and for `null`.
-/
def optional {α : Type} (j : Json) (name : String) (f : Json → Option α) : Option (Option α) :=
  match j.get name with
  | none | some .null => some none
  | some value => (f value).map some

def asVec {α : Type} (f : Json → Option α) (j : Json) : Option (List α) :=
  match j with
  | .arr items => items.mapM f
  | _ => none

def asUnsigned (bound : Nat) (j : Json) : Option Nat :=
  match j with
  | .num (.int n) => if 0 ≤ n ∧ n < bound then some n.toNat else none
  | _ => none

def asU16 (j : Json) : Option UInt16 :=
  (asUnsigned (2 ^ 16) j).map UInt16.ofNat

def asU32 (j : Json) : Option UInt32 :=
  (asUnsigned (2 ^ 32) j).map UInt32.ofNat

def asU64 (j : Json) : Option UInt64 :=
  (asUnsigned (2 ^ 64) j).map UInt64.ofNat

section Fields

variable {α β : Type} {j v : Json} {name : String} {f : Json → Option α} {g : α → Json}

theorem lookup_entry (name key : String) (value : Json) (fields : List (String × Json))
    : ((name, value) :: fields).lookup key = if key = name then some value else fields.lookup key := by
  rw [List.lookup_cons]
  by_cases h : key = name
  . rw [beq_iff_eq.mpr h, if_pos h]
  . rw [beq_eq_false_iff_ne.mpr h, if_neg h]

theorem lookup_field (name key : String) (value : Option Json)
    : (field name value).lookup key = if key = name then value else none := by
  cases value with
  | none => simp [field]
  | some value =>
    unfold field
    rw [lookup_entry, List.lookup_nil]

theorem required_of_get (h : j.get name = some v) : j.required name f = f v := by
  unfold required
  rw [h]
  rfl

theorem orElse_of_get {default : α} (h : j.get name = some v) : j.orElse name default f = f v := by
  unfold orElse
  rw [h]

theorem optional_of_get {value : Option α} (h : j.get name = value.map g) (hnull : ∀ x, g x ≠ .null)
    (hread : ∀ x, f (g x) = some x) : j.optional name f = some value := by
  unfold optional
  rw [h]
  cases value with
  | none => rfl
  | some x =>
    dsimp only [Option.map_some]
    split
    . next heq => cases heq
    . next heq => exact absurd (Option.some.inj heq) (hnull x)
    . next value heq =>
      cases heq
      rw [hread]
      rfl

theorem mapM_map {f : Json → Option β} {m : α → β} {items : List α} (hread : ∀ x ∈ items, f (g x) = some (m x))
    : (items.map g).mapM f = some (items.map m) := by
  induction items with
  | nil => rfl
  | cons x items ih =>
    rw [List.map_cons, List.mapM_cons, hread x List.mem_cons_self,
      ih (fun y hy => hread y (List.mem_cons_of_mem x hy))]
    rfl

theorem asVec_map {items : List α} (hread : ∀ x ∈ items, f (g x) = some x)
    : asVec f (.arr (items.map g)) = some items := by
  unfold asVec
  dsimp only
  rw [mapM_map (m := id) hread, List.map_id]

end Fields

theorem asUnsigned_int {bound n : Nat} (h : n < bound) : asUnsigned bound (.int n) = some n := by
  have hrange : (0 : Int) ≤ n ∧ (n : Int) < bound := by omega
  unfold int asUnsigned
  dsimp only
  rw [if_pos hrange, Int.toNat_natCast]

theorem asU16_int (n : UInt16) : asU16 (.int n.toNat) = some n := by
  unfold asU16
  rw [asUnsigned_int n.toNat_lt]
  simp

theorem asU32_int (n : UInt32) : asU32 (.int n.toNat) = some n := by
  unfold asU32
  rw [asUnsigned_int n.toNat_lt]
  simp

theorem asU64_int (n : UInt64) : asU64 (.int n.toNat) = some n := by
  unfold asU64
  rw [asUnsigned_int n.toNat_lt]
  simp

end Json
