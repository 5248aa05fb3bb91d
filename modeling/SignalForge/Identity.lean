import Mathlib.Data.List.Basic
import SignalForge.Text

/-! Identifiers derived from names. A version 5 UUID is the SHA-1 of a namespace and a name;
the hash is any function of the bytes. -/

set_option autoImplicit false

namespace SignalForge

abbrev Uuid : Type := BitVec 128

namespace Uuid

/-- `uuid.version`, read where the variant is RFC 4122's. -/
def version (id : Uuid) : Option Nat :=
  if id.getLsbD 63 ∧ ¬ id.getLsbD 62 then some (id.extractLsb' 76 4).toNat else none

/-- `UUID(bytes=digest[:16], version=5)`. -/
def ofDigest (digest : BitVec 160) : Uuid :=
  let variant := (digest.extractLsb' 32 128 &&& ~~~ (0xc000#128 <<< 48)) ||| (0x8000#128 <<< 48)
  (variant &&& ~~~ (0xf000#128 <<< 64)) ||| (5#128 <<< 76)

/-- `uuid.bytes`, most significant byte first. -/
def bytes (id : Uuid) : List UInt8 :=
  (List.range 16).map fun place => (id >>> (120 - 8 * place)).toNat.toUInt8

/-- `str(uuid)`. -/
def text (id : Uuid) : Str :=
  (List.range 32).flatMap fun place =>
    (if place = 8 ∨ place = 12 ∨ place = 16 ∨ place = 20 then ['-'] else []) ++
      [Nat.digitChar ((id >>> (124 - 4 * place)).toNat % 16)]

def uuid5 (sha1 : List UInt8 → BitVec 160) (space : Uuid) (name : Str) : Uuid :=
  ofDigest (sha1 (space.bytes ++ name.flatMap String.utf8EncodeChar))

example : text 0x6ba7b8109dad11d180b400c04fd430c8#128 =
    "6ba7b810-9dad-11d1-80b4-00c04fd430c8".toList := by decide

theorem version_ofDigest (digest : BitVec 160) : (ofDigest digest).version = some 5 := by
  have variant : (ofDigest digest).getLsbD 63 = true ∧ (ofDigest digest).getLsbD 62 = false := by
    simp [ofDigest]
  have versionBits : (ofDigest digest).extractLsb' 76 4 = 5#4 := by
    apply BitVec.eq_of_getLsbD_eq
    intro place inside
    have cases : place = 0 ∨ place = 1 ∨ place = 2 ∨ place = 3 := by omega
    rcases cases with rfl | rfl | rfl | rfl <;> simp [ofDigest]
  rw [version, variant.1, variant.2, versionBits]
  rfl

/-- The hexadecimal digit at a place, most significant first. -/
def nibble (id : Uuid) (place : Nat) : Nat := (id >>> (124 - 4 * place)).toNat % 16

theorem nibble_lt (id : Uuid) (place : Nat) : id.nibble place < 16 := Nat.mod_lt _ (by decide)

theorem text_digits (id : Uuid) :
    id.text.filter (· ≠ '-') = (List.range 32).map fun place => Nat.digitChar (id.nibble place) := by
  have digit : ∀ n : Nat, n < 16 → Nat.digitChar n ≠ '-' := by decide
  have places : ∀ places : List Nat, (places.flatMap fun place =>
      (if place = 8 ∨ place = 12 ∨ place = 16 ∨ place = 20 then ['-'] else []) ++
        [Nat.digitChar (id.nibble place)]).filter (· ≠ '-') =
      places.map fun place => Nat.digitChar (id.nibble place) := by
    intro places
    induction places with
    | nil => rfl
    | cons place rest ih =>
        have kept := digit _ (id.nibble_lt place)
        rw [List.flatMap_cons, List.filter_append, ih, List.filter_append]
        split <;> simp [kept]
  exact places _

theorem digitChar_injective {left right : Nat} (leftHex : left < 16) (rightHex : right < 16)
    (same : Nat.digitChar left = Nat.digitChar right) : left = right := by
  have apart : ∀ left < 16, ∀ right < 16, Nat.digitChar left = Nat.digitChar right → left = right := by
    decide
  exact apart left leftHex right rightHex same

theorem text_injective : Function.Injective text := by
  intro left right same
  have digits : ∀ place < 32, left.nibble place = right.nibble place := by
    intro place inside
    have listed : (List.range 32).map (fun place => Nat.digitChar (left.nibble place)) =
        (List.range 32).map fun place => Nat.digitChar (right.nibble place) := by
      rw [← text_digits, ← text_digits, same]
    have here := List.map_inj_left.mp listed place (List.mem_range.mpr inside)
    exact digitChar_injective (left.nibble_lt place) (right.nibble_lt place) here
  apply BitVec.eq_of_getLsbD_eq
  intro bit inside
  have here := digits (31 - bit / 4) (by omega)
  have shift : 124 - 4 * (31 - bit / 4) = 4 * (bit / 4) := by omega
  have bits := congrArg (fun nibble => nibble.testBit (bit % 4)) here
  simp only [nibble, shift] at bits
  have below : bit % 4 < 4 := Nat.mod_lt _ (by decide)
  rw [show (16 : Nat) = 2 ^ 4 from rfl, Nat.testBit_mod_two_pow, Nat.testBit_mod_two_pow] at bits
  simp only [below, decide_true, Bool.true_and, BitVec.toNat_ushiftRight, Nat.testBit_shiftRight,
    BitVec.testBit_toNat] at bits
  rwa [Nat.div_add_mod] at bits

theorem mem_text {id : Uuid} {c : Char} (member : c ∈ id.text) :
    c = '-' ∨ ∃ digit < 16, c = Nat.digitChar digit := by
  rw [text, List.mem_flatMap] at member
  obtain ⟨place, _, here⟩ := member
  rcases List.mem_append.mp here with dash | digit
  · split at dash
    · exact Or.inl (List.mem_singleton.mp dash)
    · cases dash
  · exact Or.inr ⟨_, Nat.mod_lt _ (by decide), List.mem_singleton.mp digit⟩

end Uuid

namespace Identity

/-- `NAMESPACE_DNS`. -/
def namespaceDns : Uuid := 0x6ba7b8109dad11d180b400c04fd430c8#128

/-- `NAMESPACE`, the root of every derived id. -/
def rootNamespace (sha1 : List UInt8 → BitVec 160) : Uuid :=
  Uuid.uuid5 sha1 namespaceDns "signalforge.analytics".toList

def derive (sha1 : List UInt8 → BitVec 160) (role : String) (parts : List Str) : Uuid :=
  Uuid.uuid5 sha1 (rootNamespace sha1) (List.intercalate ['|'] (role.toList :: parts))

def deriveDeviceId (sha1 : List UInt8 → BitVec 160) (storeId deviceLabel : Str) : Uuid :=
  derive sha1 "device" [storeId, deviceLabel]

theorem version_derive (sha1 : List UInt8 → BitVec 160) (role : String) (parts : List Str) :
    (derive sha1 role parts).version = some 5 := Uuid.version_ofDigest _

end Identity

end SignalForge
