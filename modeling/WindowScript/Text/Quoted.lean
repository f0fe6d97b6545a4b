/-
# Quoted text

A quoted text stands between double quotes. Quotes, backslashes and control
characters inside it are escaped, the common control characters by a letter and
the others by four hexadecimal digits. Which further characters are escaped is
for the format to say.
-/

import WindowScript.Text.Hex
import WindowScript.Text.Units

namespace WindowScript.Text

/-- An escape with four hexadecimal digits, in lower case. -/
def hexEscape (n : Nat) : List Char :=
  '\\' :: 'u' :: [n / 4096 % 16, n / 256 % 16, n / 16 % 16, n % 16].map Nat.digitChar

/-- The escape that every quoted text uses for a character. -/
def escape (c : Char) : List Char :=
  match c with
  | '"' => ['\\', '"']
  | '\\' => ['\\', '\\']
  | '\x08' => ['\\', 'b']
  | '\t' => ['\\', 't']
  | '\n' => ['\\', 'n']
  | '\x0c' => ['\\', 'f']
  | '\r' => ['\\', 'r']
  | _ => if c.toNat < 0x20 then hexEscape c.toNat else [c]

/-- Quote a text, escaping each character by the given rule. -/
def quoteWith (rule : Char → List Char) (cs : List Char) : List Char :=
  '"' :: cs.flatMap rule ++ ['"']

/-- The character that a one-letter escape stands for. -/
def letterEscape? (c : Char) : Option Char :=
  match c with
  | '"' => some '"'
  | '\\' => some '\\'
  | '/' => some '/'
  | 'b' => some '\x08'
  | 't' => some '\t'
  | 'n' => some '\n'
  | 'f' => some '\x0c'
  | 'r' => some '\r'
  | _ => none

/-- Read the units of a quoted text after its opening quote, with the text after
the closing one. The characters that `forbidden` names may not stand there
unescaped. -/
def unquoteUnits (forbidden : Char → Bool) : List Char → Option (List Nat × List Char)
  | [] => none
  | '"' :: rest => some ([], rest)
  | ['\\'] => none
  | '\\' :: c :: rest =>
      if c = 'u' then
        match rest with
        | h₁ :: h₂ :: h₃ :: h₄ :: more =>
            match hexDigits? 4 0 [h₁, h₂, h₃, h₄], unquoteUnits forbidden more with
            | some (unit, _), some (tail, after) => some (unit :: tail, after)
            | _, _ => none
        | _ => none
      else
        match letterEscape? c, unquoteUnits forbidden rest with
        | some found, some (tail, after) => some (found.toNat :: tail, after)
        | _, _ => none
  | c :: rest =>
      if forbidden c then none
      else
        match unquoteUnits forbidden rest with
        | some (tail, after) => some (units c ++ tail, after)
        | none => none

/-- Read a quoted text after its opening quote. -/
def unquote (forbidden : Char → Bool) (cs : List Char) : Option (List Char × List Char) :=
  match unquoteUnits forbidden cs with
  | some (found, rest) => some (ofUnits found, rest)
  | none => none

/-- What follows a quoted text is shorter than the text it was read from. -/
theorem length_of_unquoteUnits {forbidden : Char → Bool} {cs rest : List Char}
    {found : List Nat} (hread : unquoteUnits forbidden cs = some (found, rest)) :
    rest.length < cs.length := by
  fun_induction unquoteUnits forbidden cs generalizing found rest <;> simp_all <;> omega

theorem length_of_unquote {forbidden : Char → Bool} {cs found rest : List Char}
    (hread : unquote forbidden cs = some (found, rest)) : rest.length < cs.length := by
  unfold unquote at hread
  split at hread
  next units after hunits =>
      simp only [Option.some.injEq, Prod.mk.injEq] at hread
      rw [← hread.2]
      exact length_of_unquoteUnits hunits
  next => simp at hread

end WindowScript.Text
