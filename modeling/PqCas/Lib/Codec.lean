import PqCas.Lib.Serde

/-!
This module contains JSON forms that are read back as what was written, and how the fields of an object
in such a form are read.
-/

namespace Json

/--
A way to write values and to read them. No value is written as `null`, which a reader of an `Option`
takes for a missing one.
-/
structure Codec (α : Type) where
  encode : α → Json
  decode : Json → Option α
  decode_encode : ∀ a, decode (encode a) = some a
  encode_ne_null : ∀ a, encode a ≠ .null

namespace Codec

def string : Codec String :=
  ⟨.str, asStr, asStr_str, nofun⟩

def bool : Codec Bool :=
  ⟨.bool, asBool, asBool_bool, nofun⟩

def u16 : Codec UInt16 :=
  ⟨fun n => .int n.toNat, asU16, asU16_int, nofun⟩

def u32 : Codec UInt32 :=
  ⟨fun n => .int n.toNat, asU32, asU32_int, nofun⟩

def u64 : Codec UInt64 :=
  ⟨fun n => .int n.toNat, asU64, asU64_int, nofun⟩

variable {α : Type}

theorem asVec_encode (c : Codec α) (items : List α)
    : asVec c.decode (.arr (items.map c.encode)) = some items :=
  asVec_map (fun a _ => c.decode_encode a)

def list (c : Codec α) : Codec (List α) :=
  ⟨fun items => .arr (items.map c.encode), asVec c.decode, c.asVec_encode, nofun⟩

section Fields

variable {j : Json} {name : String} {a : α} (c : Codec α)

theorem required_of_get (h : j.get name = some (c.encode a)) : j.required name c.decode = some a := by
  rw [Json.required_of_get h]
  exact c.decode_encode a

theorem orElse_of_get {default : α} (h : j.get name = some (c.encode a))
    : j.orElse name default c.decode = some a := by
  rw [Json.orElse_of_get h]
  exact c.decode_encode a

theorem optional_of_get {value : Option α} (h : j.get name = value.map c.encode)
    : j.optional name c.decode = some value :=
  Json.optional_of_get h c.encode_ne_null c.decode_encode

end Fields

end Codec

theorem optional_str {j : Json} {name : String} {value : Option String} (h : j.get name = value.map .str)
    : j.optional name asStr = some value :=
  Codec.string.optional_of_get h

end Json
