/-!
# Bytes as text

Reading bytes as UTF-8. A reading is a list with one entry for each character
and `none` for each maximal part of the input that starts no character; from it
come both the strict reading, which fails at such a part, and the lossy one,
which puts U+FFFD in its place.
-/

namespace ClusterRig
namespace Text
namespace Utf8

/-- A character of which some bytes are still missing: the bits read so far, the
range of the next byte, and how many bytes are missing after that one. -/
structure Begun where
  bits : Nat
  low : UInt8
  high : UInt8
  more : Nat

/-- What a byte between two characters is. -/
inductive Opening
  | whole (c : Char)
  | begun (b : Begun)
  | stray

def opening (b : UInt8) : Opening :=
  if b < 0x80 then .whole (Char.ofNat b.toNat)
  else if b < 0xC2 then .stray
  else if b < 0xE0 then .begun ⟨b.toNat - 0xC0, 0x80, 0xBF, 0⟩
  else if b < 0xF0 then
    .begun ⟨b.toNat - 0xE0, if b == 0xE0 then 0xA0 else 0x80, if b == 0xED then 0x9F else 0xBF, 1⟩
  else if b < 0xF5 then
    .begun ⟨b.toNat - 0xF0, if b == 0xF0 then 0x90 else 0x80, if b == 0xF4 then 0x8F else 0xBF, 2⟩
  else .stray

/-- The entries of the bytes after a begun character, or between two of them. -/
def pieces : Option Begun → List UInt8 → List (Option Char)
  | none, [] => []
  | some _, [] => [none]
  | none, b :: rest =>
    match opening b with
    | .whole c => some c :: pieces none rest
    | .begun p => pieces (some p) rest
    | .stray => none :: pieces none rest
  | some p, b :: rest =>
    if p.low ≤ b && b ≤ p.high then
      let bits := p.bits * 64 + (b.toNat - 0x80)
      match p.more with
      | 0 => some (Char.ofNat bits) :: pieces none rest
      | more + 1 => pieces (some ⟨bits, 0x80, 0xBF, more⟩) rest
    else
      none ::
        match opening b with
        | .whole c => some c :: pieces none rest
        | .begun p => pieces (some p) rest
        | .stray => none :: pieces none rest

/-- The text of the bytes, if all of them belong to characters. -/
def decode? (bytes : List UInt8) : Option (List Char) :=
  (pieces none bytes).mapM id

/-- The text of the bytes, with U+FFFD for each maximal part that is no character. -/
def decodeLossy (bytes : List UInt8) : List Char :=
  (pieces none bytes).map (·.getD '\uFFFD')

def encode (s : String) : List UInt8 := s.toUTF8.toList

end Utf8
end Text
end ClusterRig
