/-!
# UTF-8

The bytes of a text, and the reading of bytes as characters.  A character has exactly one
spelling, so the reader asks for that one: it computes the character that the bytes in front seem
to spell, writes it again, and accepts it if the same bytes come out.  Overlong spellings,
surrogates and numbers above the last character fail this test.

`split` reads as far as that goes: it gives the characters of the longest well-formed front part
and the bytes behind it. -/

set_option autoImplicit false

namespace EquiJoin.Utf8

def encode (text : String) : List UInt8 :=
  text.toList.flatMap String.utf8EncodeChar

def width (lead : UInt8) : Nat :=
  if lead < 0x80 then 1 else if lead < 0xE0 then 2 else if lead < 0xF0 then 3 else 4

/-- The bits that the first byte of a spelling of this many bytes adds to the character. -/
def leadBits (lead : UInt8) : Nat → Nat
  | 1 => lead.toNat % 128
  | 2 => lead.toNat % 32
  | 3 => lead.toNat % 16
  | _ => lead.toNat % 8

/-- The number that a spelling stands for: the bits of the first byte, then six of each other. -/
def code : List UInt8 → Nat
  | [] => 0
  | lead :: tail =>
      tail.foldl (fun number byte => 64 * number + byte.toNat % 64)
        (leadBits lead (tail.length + 1))

def next? : List UInt8 → Option (Char × List UInt8)
  | [] => none
  | lead :: rest =>
      let spelling := lead :: rest.take (width lead - 1)
      let character := Char.ofNat (code spelling)
      if String.utf8EncodeChar character = spelling then
        some (character, rest.drop (width lead - 1))
      else none

theorem next?_length {bytes rest : List UInt8} {character : Char}
    (found : next? bytes = some (character, rest)) : rest.length < bytes.length := by
  cases bytes with
  | nil => simp [next?] at found
  | cons lead tail =>
      simp only [next?] at found
      split at found
      · obtain ⟨-, rfl⟩ := Prod.mk.inj (Option.some.inj found)
        simp only [List.length_drop, List.length_cons]
        omega
      · exact absurd found (by simp)

/-- The characters of the longest well-formed front part, and the bytes behind it. -/
def split (bytes : List UInt8) : List Char × List UInt8 :=
  match _found : next? bytes with
  | none => ([], bytes)
  | some (character, rest) =>
      let (characters, unread) := split rest
      (character :: characters, unread)
termination_by bytes.length
decreasing_by exact next?_length _found

end EquiJoin.Utf8
