/-
# Reading JSON

A text is cut into tokens, and the tokens drive a machine that keeps the open
arrays and objects on a stack. Nothing but blanks may stand around a value.
-/

import WindowScript.Json.Value
import WindowScript.Text.Quoted

namespace WindowScript.Json

/-- A token of a JSON text. A string is a scalar until a colon makes it a key. -/
inductive Token
  | beginArray
  | endArray
  | beginObject
  | endObject
  | comma
  | colon
  | scalar (value : Json)

/-- The blanks between tokens. -/
def isSpace (c : Char) : Bool := c = ' ' || c = '\t' || c = '\n' || c = '\r'

/-- Characters that may not stand unescaped in a string. -/
def isForbidden (c : Char) : Bool := c.toNat < 0x20

/-- Characters of numbers and of the three named values. -/
def isWord (c : Char) : Bool := c.isAlphanum || c = '-' || c = '+' || c = '.'

/-- An exponent, with an optional sign. -/
def exponent? : List Char → Option Int
  | [] => some 0
  | e :: rest =>
      if e = 'e' ∨ e = 'E' then
        let ds := match rest with
          | '-' :: ds => ds
          | '+' :: ds => ds
          | ds => ds
        if ds ≠ [] ∧ ds.all Char.isDigit then
          let n : Int := Number.valueOfDigits ds
          some (if rest.head? = some '-' then -n else n)
        else none
      else none

/-- The digits after a decimal point, and what follows them. -/
def places? : List Char → Option (List Char × List Char)
  | '.' :: rest =>
      let ds := rest.takeWhile Char.isDigit
      if ds = [] then none else some (ds, rest.dropWhile Char.isDigit)
  | cs => some ([], cs)

/-- The number that a word without its sign denotes. -/
def magnitude? (negative : Bool) (cs : List Char) : Option Number :=
  let whole := cs.takeWhile Char.isDigit
  if whole = [] ∨ (whole.head? = some '0' ∧ whole ≠ ['0']) then none
  else match places? (cs.dropWhile Char.isDigit) with
    | none => none
    | some (places, rest) =>
        match exponent? rest with
        | none => none
        | some e =>
            some (.ofDecimal negative (Number.valueOfDigits (whole ++ places)) (e - places.length))

/-- The scalar that a word denotes. -/
def word? (cs : List Char) : Option Json :=
  if cs = "null".toList then some .null
  else if cs = "true".toList then some (.bool true)
  else if cs = "false".toList then some (.bool false)
  else match cs with
    | '-' :: rest => (magnitude? true rest).map .number
    | _ => (magnitude? false cs).map .number

/-- The token that starts with `c`, if `c` is not a blank. -/
def nextToken (c : Char) (cs : List Char) : Option (Token × List Char) :=
  match c with
  | '[' => some (.beginArray, cs)
  | ']' => some (.endArray, cs)
  | '\x7b' => some (.beginObject, cs)
  | '\x7d' => some (.endObject, cs)
  | ',' => some (.comma, cs)
  | ':' => some (.colon, cs)
  | '"' =>
      match Text.unquote isForbidden cs with
      | some (found, rest) => some (.scalar (.string (String.ofList found)), rest)
      | none => none
  | _ =>
      match word? (c :: cs.takeWhile isWord) with
      | some value => some (.scalar value, cs.dropWhile isWord)
      | none => none

/-- A token uses up at least the character it starts with. -/
theorem length_of_nextToken {c : Char} {cs rest : List Char} {token : Token}
    (hread : nextToken c cs = some (token, rest)) : rest.length ≤ cs.length := by
  unfold nextToken at hread
  split at hread
  case h_7 =>
      split at hread
      next found after hunquote =>
          simp only [Option.some.injEq, Prod.mk.injEq] at hread
          rw [← hread.2]
          exact Nat.le_of_lt (Text.length_of_unquote hunquote)
      next => simp at hread
  case h_8 =>
      split at hread
      · simp only [Option.some.injEq, Prod.mk.injEq] at hread
        rw [← hread.2]
        exact (List.dropWhile_suffix _).length_le
      · simp at hread
  all_goals
    simp only [Option.some.injEq, Prod.mk.injEq] at hread
    exact Nat.le_of_eq (congrArg List.length hread.2.symm)

/-- The tokens of a text after those of `done`, which are held last first. -/
def tokensAfter (done : List Token) : List Char → Option (List Token)
  | [] => some done.reverse
  | c :: cs =>
      if isSpace c then tokensAfter done cs
      else match hread : nextToken c cs with
        | some (token, rest) =>
            have := length_of_nextToken hread
            tokensAfter (token :: done) rest
        | none => none
termination_by cs => cs.length
decreasing_by
  · simp
  · exact Nat.lt_succ_of_le this

/-- An array or object that is still open, with what it holds so far, last
first. -/
inductive Frame
  | array (done : List Json)
  | object (done : List (String × Json)) (key : String)

/-- What the machine is waiting for, inside the open frames. -/
inductive State
  | value (frames : List Frame)
  | firstItem (frames : List Frame)
  | firstKey (frames : List Frame)
  | key (frames : List Frame) (done : List (String × Json))
  | colon (frames : List Frame) (done : List (String × Json)) (key : String)
  | after (frames : List Frame) (value : Json)

/-- A value starts. -/
def State.start (frames : List Frame) : Token → Option State
  | .scalar found => some (.after frames found)
  | .beginArray => some (.firstItem frames)
  | .beginObject => some (.firstKey frames)
  | _ => none

/-- A value is complete, and the frame around it goes on or closes. -/
def State.proceed (frames : List Frame) (found : Json) (token : Token) : Option State :=
  match frames, token with
  | .array done :: outer, .comma => some (.value (.array (found :: done) :: outer))
  | .array done :: outer, .endArray => some (.after outer (.array (found :: done).reverse))
  | .object done name :: outer, .comma => some (.key outer ((name, found) :: done))
  | .object done name :: outer, .endObject =>
      some (.after outer (.object ((name, found) :: done).reverse))
  | _, _ => none

/-- Take one token. -/
def State.step (state : State) (token : Token) : Option State :=
  match state, token with
  | .value frames, token => State.start frames token
  | .firstItem frames, .endArray => some (.after frames (.array []))
  | .firstItem frames, token => State.start (.array [] :: frames) token
  | .firstKey frames, .endObject => some (.after frames (.object []))
  | .firstKey frames, .scalar (.string name) => some (.colon frames [] name)
  | .key frames done, .scalar (.string name) => some (.colon frames done name)
  | .colon frames done name, .colon => some (.value (.object done name :: frames))
  | .after frames found, token => State.proceed frames found token
  | _, _ => none

/-- Run the machine over tokens. -/
def State.run (state : State) : List Token → Option State
  | [] => some state
  | token :: rest =>
      match state.step token with
      | some next => next.run rest
      | none => none

/-- The value that a text denotes. -/
def parse? (s : String) : Option Json :=
  match tokensAfter [] s.toList with
  | none => none
  | some tokens =>
      match (State.value []).run tokens with
      | some (.after [] value) => some value
      | _ => none

end WindowScript.Json
