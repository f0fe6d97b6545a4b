/-
# Bytes as text

Helper programs write bytes. They are read as UTF-8, and every maximal part that
cannot start a character becomes one replacement character U+FFFD: a lead byte
with the continuation bytes that still fit it, or a single byte that leads
nothing. A byte order mark is an ordinary character here.
-/

namespace WindowScript.Text.Utf8

/-- The character that stands for malformed bytes. -/
def replacement : Char := '�'

/-- What a lead byte asks for: its own bits, the number of bytes to follow, and
the range of the first of them. -/
structure Lead where
  bits : Nat
  more : Nat
  least : UInt8
  greatest : UInt8

/-- The demand of a lead byte, and nothing for a byte that leads no character. -/
def lead? (b : UInt8) : Option Lead :=
  if b < 0xC2 then none
  else if b < 0xE0 then some ⟨b.toNat - 0xC0, 1, 0x80, 0xBF⟩
  else if b < 0xF0 then
    some ⟨b.toNat - 0xE0, 2, if b = 0xE0 then 0xA0 else 0x80, if b = 0xED then 0x9F else 0xBF⟩
  else if b < 0xF5 then
    some ⟨b.toNat - 0xF0, 3, if b = 0xF0 then 0x90 else 0x80, if b = 0xF4 then 0x8F else 0xBF⟩
  else none

/-- Read continuation bytes until the demand is met or a byte does not fit. The
byte that does not fit is left for the next character. -/
def follow : Nat → UInt8 → UInt8 → Nat → List UInt8 → Char × List UInt8
  | 0, _, _, value, rest => (Char.ofNat value, rest)
  | _ + 1, _, _, _, [] => (replacement, [])
  | more + 1, least, greatest, value, b :: rest =>
      if least ≤ b ∧ b ≤ greatest then
        follow more 0x80 0xBF (value * 0x40 + (b.toNat - 0x80)) rest
      else (replacement, b :: rest)

/-- The character at the head of non-empty bytes, and the bytes after it. -/
def next (b : UInt8) (rest : List UInt8) : Char × List UInt8 :=
  if b < 0x80 then (Char.ofNat b.toNat, rest)
  else match lead? b with
    | none => (replacement, rest)
    | some lead => follow lead.more lead.least lead.greatest lead.bits rest

theorem length_follow_le (more : Nat) (least greatest : UInt8) (value : Nat)
    (bytes : List UInt8) :
    (follow more least greatest value bytes).2.length ≤ bytes.length := by
  induction more generalizing least greatest value bytes with
  | zero => simp [follow]
  | succ more ih =>
      cases bytes with
      | nil => simp [follow]
      | cons b rest =>
          rw [follow]
          split
          · exact Nat.le_succ_of_le (ih _ _ _ _)
          · exact Nat.le_refl _

/-- A character uses up at least its first byte. -/
theorem length_next_le (b : UInt8) (rest : List UInt8) :
    (next b rest).2.length ≤ rest.length := by
  rw [next]
  split
  · exact Nat.le_refl _
  · split
    · exact Nat.le_refl _
    · exact length_follow_le _ _ _ _ _

/-- Decode after the characters `done`, which are held last first. -/
def decodeOnto (done : List Char) : List UInt8 → List Char
  | [] => done.reverse
  | b :: rest => decodeOnto ((next b rest).1 :: done) (next b rest).2
termination_by bytes => bytes.length
decreasing_by exact Nat.lt_succ_of_le (length_next_le b rest)

/-- The characters that the bytes stand for. -/
def decode (bytes : List UInt8) : List Char := decodeOnto [] bytes

/-- The bytes of a text. -/
def encode (cs : List Char) : List UInt8 := cs.flatMap String.utf8EncodeChar

theorem decodeOnto_eq (done : List Char) (bytes : List UInt8) :
    decodeOnto done bytes = done.reverse ++ decode bytes := by
  induction hn : bytes.length using Nat.strongRecOn generalizing done bytes with
  | ind n ih =>
      cases bytes with
      | nil => simp [decode, decodeOnto]
      | cons b rest =>
          have hlt : (next b rest).2.length < n := by
            rw [← hn]
            exact Nat.lt_succ_of_le (length_next_le b rest)
          have hcons : decode (b :: rest) =
              (next b rest).1 :: decode (next b rest).2 := by
            rw [decode, decodeOnto, ih _ hlt _ _ rfl]
            simp
          rw [decodeOnto, ih _ hlt _ _ rfl, hcons]
          simp

@[simp]
theorem decode_nil : decode [] = [] := by simp [decode, decodeOnto]

/-- Decoding reads one character and goes on after it. -/
theorem decode_cons (b : UInt8) (rest : List UInt8) :
    decode (b :: rest) = (next b rest).1 :: decode (next b rest).2 := by
  rw [decode, decodeOnto, decodeOnto_eq]
  simp

end WindowScript.Text.Utf8
