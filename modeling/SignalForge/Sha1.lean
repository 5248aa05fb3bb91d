import Mathlib.Algebra.Group.Nat.Defs
import Mathlib.Data.List.Basic

/-! SHA-1. -/

set_option autoImplicit false

namespace Sha1

structure State where
  a : BitVec 32
  b : BitVec 32
  c : BitVec 32
  d : BitVec 32
  e : BitVec 32

def initial : State := ⟨0x67452301, 0xefcdab89, 0x98badcfe, 0x10325476, 0xc3d2e1f0⟩

/-- The bytes, a one bit, zeros to the last eight bytes of a block, and the length in bits. -/
def padded (bytes : List UInt8) : List UInt8 :=
  let zeros := (119 - bytes.length % 64) % 64
  let bits := 8 * bytes.length
  bytes ++ 0x80 :: List.replicate zeros 0 ++
    (List.range 8).map fun place => (bits / 256 ^ (7 - place)).toUInt8

/-- The big-endian words of the bytes. -/
def words : List UInt8 → List (BitVec 32)
  | first :: second :: third :: fourth :: rest =>
      BitVec.ofNat 32 (first.toNat * 16777216 + second.toNat * 65536 + third.toNat * 256 +
        fourth.toNat) :: words rest
  | _ => []

/-- The schedule so far, latest word first, with `turns` more words. -/
def expand : Nat → List (BitVec 32) → List (BitVec 32)
  | 0, schedule => schedule
  | turns + 1, schedule =>
      let word := (schedule.getD 2 0 ^^^ schedule.getD 7 0 ^^^ schedule.getD 13 0 ^^^
        schedule.getD 15 0).rotateLeft 1
      expand turns (word :: schedule)

/-- The function and the constant of a turn. -/
def mix (turn : Nat) (b c d : BitVec 32) : BitVec 32 :=
  if turn < 20 then (b &&& c ||| ~~~b &&& d) + 0x5a827999
  else if turn < 40 then (b ^^^ c ^^^ d) + 0x6ed9eba1
  else if turn < 60 then (b &&& c ||| b &&& d ||| c &&& d) + 0x8f1bbcdc
  else (b ^^^ c ^^^ d) + 0xca62c1d6

def turns : Nat → List (BitVec 32) → State → State
  | _, [], state => state
  | turn, word :: rest, ⟨a, b, c, d, e⟩ =>
      turns (turn + 1) rest
        ⟨a.rotateLeft 5 + mix turn b c d + e + word, a, b.rotateLeft 30, c, d⟩

def compress (state : State) (block : List (BitVec 32)) : State :=
  let after := turns 0 (expand 64 block.reverse).reverse state
  ⟨state.a + after.a, state.b + after.b, state.c + after.c, state.d + after.d, state.e + after.e⟩

/-- The words taken sixteen at a time, at most `blocks` times. -/
def compressAll : Nat → State → List (BitVec 32) → State
  | 0, state, _ => state
  | blocks + 1, state, words => compressAll blocks (compress state (words.take 16)) (words.drop 16)

def digest (bytes : List UInt8) : BitVec 160 :=
  let message := words (padded bytes)
  let final := compressAll (message.length / 16) initial message
  final.a ++ final.b ++ final.c ++ final.d ++ final.e

example : digest [0x61, 0x62, 0x63] = 0xa9993e364706816aba3e25717850c26c9cd0d89d := by
  decide +kernel

end Sha1
