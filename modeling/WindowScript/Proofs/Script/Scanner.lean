/-
# Cutting a script into code and literals

A scanner walks over the text of a script and cuts it into characters of code and
the bodies of double-quoted literals. Inside a literal a backslash takes the next
character with it, whatever that is, and a line end is an error. The scanner knows
nothing about how literals are written. It comes back to code exactly where a
literal ends, because the escapes of a text hold no bare quote, no bare backslash
and no line end.
-/

import WindowScript.Proofs.Text.Quoted
import WindowScript.Script.Render

namespace WindowScript.Script

/-! ## The scanner -/

/-- The characters that end a line of a script. -/
def isLineEnd (c : Char) : Bool := c = '\n' || c = '\r' || c = '\u2028' || c = '\u2029'

/-- A character of code, or what stands between the quotes of a literal. -/
inductive Lexeme
  | code (c : Char)
  | literal (body : List Char)
  deriving DecidableEq, Repr

/-- Where the scanner is. Inside a literal it keeps the body so far, and after a
backslash it takes any character but a line end. -/
inductive Mode
  | code
  | literal (body : List Char)
  | escaped (body : List Char)
  deriving DecidableEq, Repr

/-- Cut a text into lexemes. A literal that does not end, or not on its line, is an
error. -/
def scan : Mode → List Char → Option (List Lexeme)
  | .code, [] => some []
  | .literal _, [] => none
  | .escaped _, [] => none
  | .code, c :: rest =>
      if c = '"' then scan (.literal []) rest
      else (scan .code rest).map (.code c :: ·)
  | .literal body, c :: rest =>
      if c = '"' then (scan .code rest).map (.literal body :: ·)
      else if isLineEnd c then none
      else if c = '\\' then scan (.escaped (body ++ [c])) rest
      else scan (.literal (body ++ [c])) rest
  | .escaped body, c :: rest =>
      if isLineEnd c then none else scan (.literal (body ++ [c])) rest

/-- The text that the body of a literal denotes. -/
def readBody? (body : List Char) : Option String :=
  match Text.unquote isLineEnd (body ++ ['"']) with
  | some (value, []) => some (String.ofList value)
  | _ => none

/-- The texts that the literals among lexemes denote, in order. -/
def literalValues? : List Lexeme → Option (List String)
  | [] => some []
  | .code _ :: rest => literalValues? rest
  | .literal body :: rest =>
      match readBody? body, literalValues? rest with
      | some value, some values => some (value :: values)
      | _, _ => none

/-- What is left of a lexeme when the body of a literal is taken out. -/
def Lexeme.erased : Lexeme → List Char
  | .code c => [c]
  | .literal _ => ['"', '"']

/-- The texts that the literals of a script denote, in order. -/
def literals? (text : String) : Option (List String) :=
  (scan .code text.toList).bind literalValues?

/-- The text of a script with every literal emptied. -/
def erased? (text : String) : Option String :=
  (scan .code text.toList).map fun lexemes => String.ofList (lexemes.flatMap Lexeme.erased)

/-! ## Escapes stay inside their literal -/

/-- The scanner walks over a text inside a literal and stays inside it. -/
def StaysInside (written : List Char) : Prop :=
  ∀ body rest, scan (.literal body) (written ++ rest) = scan (.literal (body ++ written)) rest

theorem staysInside_nil : StaysInside [] := by
  intro body rest
  rw [List.nil_append, List.append_nil]

theorem StaysInside.append {first second : List Char} (hfirst : StaysInside first)
    (hsecond : StaysInside second) : StaysInside (first ++ second) := by
  intro body rest
  rw [List.append_assoc, hfirst, hsecond, List.append_assoc]

theorem staysInside_singleton {c : Char} (hquote : c ≠ '"') (hbackslash : c ≠ '\\')
    (hend : isLineEnd c = false) : StaysInside [c] := by
  intro body rest
  simp [scan, hquote, hbackslash, hend]

theorem staysInside_escaped {c : Char} (hend : isLineEnd c = false) :
    StaysInside ['\\', c] := by
  intro body rest
  have hbackslash : isLineEnd '\\' = false := by decide
  simp [scan, hbackslash, hend]

theorem staysInside_digitChar (n : Nat) : StaysInside [Nat.digitChar (n % 16)] := by
  have hall : ∀ d : Fin 16, Nat.digitChar d ≠ '"' ∧ Nat.digitChar d ≠ '\\' ∧
      isLineEnd (Nat.digitChar d) = false := by decide
  obtain ⟨hquote, hbackslash, hend⟩ := hall ⟨n % 16, Nat.mod_lt n (by decide)⟩
  exact staysInside_singleton hquote hbackslash hend

theorem staysInside_hexEscape (n : Nat) : StaysInside (Text.hexEscape n) :=
  (staysInside_escaped (by decide : isLineEnd 'u' = false)).append <|
    (staysInside_digitChar _).append <| (staysInside_digitChar _).append <|
      (staysInside_digitChar _).append (staysInside_digitChar _)

theorem not_isLineEnd_letter {letter c : Char} (hletter : Text.letterEscape? letter = some c) :
    isLineEnd letter = false := by
  rw [Bool.eq_false_iff]
  intro hend
  simp only [isLineEnd, Bool.or_eq_true, decide_eq_true_eq] at hend
  rcases hend with ((rfl | rfl) | rfl) | rfl <;> simp [Text.letterEscape?] at hletter

/-- The two line ends above the control characters are the ones that a literal
escapes in addition. -/
theorem not_isLineEnd_of_printed {c : Char} (hprinted : 0x20 ≤ c.toNat)
    (hsep : ¬ (c.toNat = 0x2028 ∨ c.toNat = 0x2029)) : isLineEnd c = false := by
  rw [Bool.eq_false_iff]
  intro hend
  simp only [isLineEnd, Bool.or_eq_true, decide_eq_true_eq] at hend
  rcases hend with ((rfl | rfl) | rfl) | rfl
  · exact absurd hprinted (by decide)
  · exact absurd hprinted (by decide)
  · exact hsep (Or.inl (by decide))
  · exact hsep (Or.inr (by decide))

theorem staysInside_literalEscape (c : Char) : StaysInside (literalEscape c) := by
  unfold literalEscape
  split
  next => exact staysInside_hexEscape c.toNat
  next hsep =>
      rcases Text.escape_cases c with ⟨letter, -, hletter, hescape⟩ | ⟨-, hescape⟩ |
        ⟨hprinted, hquote, hbackslash, hescape⟩ <;> rw [hescape]
      · exact staysInside_escaped (not_isLineEnd_letter hletter)
      · exact staysInside_hexEscape c.toNat
      · exact staysInside_singleton hquote hbackslash (not_isLineEnd_of_printed hprinted hsep)

theorem staysInside_flatMap (cs : List Char) : StaysInside (cs.flatMap literalEscape) := by
  induction cs with
  | nil => exact staysInside_nil
  | cons c cs ih =>
      rw [List.flatMap_cons]
      exact (staysInside_literalEscape c).append ih

/-! ## Literals denote what they were written for -/

theorem readsAs_literalEscape (c : Char) : Text.ReadsAs isLineEnd (literalEscape c) c := by
  unfold literalEscape
  split
  next hsep => exact Text.readsAs_hexEscape isLineEnd (by omega)
  next hsep =>
      exact Text.readsAs_escape fun hprinted => not_isLineEnd_of_printed hprinted hsep

theorem readBody?_flatMap (value : String) :
    readBody? (value.toList.flatMap literalEscape) = some value := by
  rw [readBody?, Text.unquote_flatMap readsAs_literalEscape]
  simp only [String.ofList_toList]

/-! ## Pieces -/

/-- A literal is one lexeme, whatever follows. -/
theorem scan_literal (value : String) (rest : List Char) :
    scan .code ((literal value).toList ++ rest) =
      (scan .code rest).map (.literal (value.toList.flatMap literalEscape) :: ·) := by
  have hbody := staysInside_flatMap value.toList [] ('"' :: rest)
  simp only [literal, Text.quoteWith, String.toList_ofList, List.cons_append,
    List.append_assoc, List.nil_append, scan, if_true]
  rw [hbody]
  simp [scan]

/-- Code without a quote is cut into its characters, whatever follows. -/
theorem scan_append_of_quote_not_mem {code : List Char} (hcode : '"' ∉ code)
    (rest : List Char) :
    scan .code (code ++ rest) = (scan .code rest).map (code.map .code ++ ·) := by
  induction code with
  | nil => simp
  | cons c code ih =>
      rw [List.mem_cons, not_or] at hcode
      rw [List.cons_append, scan, if_neg (Ne.symm hcode.1), ih hcode.2, Option.map_map]
      rfl

/-- No piece of code holds a quote. -/
def Quoteless : List Piece → Prop
  | [] => True
  | .code text :: pieces => '"' ∉ text.toList ∧ Quoteless pieces
  | .literal _ :: pieces => Quoteless pieces

theorem Quoteless.append {first second : List Piece} (hfirst : Quoteless first)
    (hsecond : Quoteless second) : Quoteless (first ++ second) := by
  induction first with
  | nil => exact hsecond
  | cons piece first ih =>
      cases piece with
      | code text => exact ⟨hfirst.1, ih hfirst.2⟩
      | literal value => exact ih hfirst

/-- What the scanner makes of a piece. -/
def Piece.lexemes : Piece → List Lexeme
  | .code text => text.toList.map .code
  | .literal value => [.literal (value.toList.flatMap literalEscape)]

/-- The text that a piece denotes if it is a literal. -/
def Piece.value? : Piece → Option String
  | .code _ => none
  | .literal value => some value

/-- The text of a piece with the body of a literal taken out. -/
def Piece.erased : Piece → String
  | .code text => text
  | .literal _ => "\"\""

/-- The scanner never loses step with the pieces. -/
theorem scan_joinPieces {pieces : List Piece} (hpieces : Quoteless pieces) :
    scan .code (joinPieces pieces).toList = some (pieces.flatMap Piece.lexemes) := by
  induction pieces with
  | nil => rfl
  | cons piece pieces ih =>
      rw [joinPieces, List.map_cons, String.join_cons, String.toList_append, ← joinPieces]
      cases piece with
      | code text =>
          rw [Piece.text, scan_append_of_quote_not_mem hpieces.1, ih hpieces.2]
          rfl
      | literal value =>
          rw [Piece.text, scan_literal, ih hpieces]
          rfl

theorem literalValues?_map_code_append (code : List Char) (rest : List Lexeme) :
    literalValues? (code.map .code ++ rest) = literalValues? rest := by
  induction code with
  | nil => rfl
  | cons c code ih => exact ih

theorem literalValues?_flatMap_lexemes (pieces : List Piece) :
    literalValues? (pieces.flatMap Piece.lexemes) = some (pieces.filterMap Piece.value?) := by
  induction pieces with
  | nil => rfl
  | cons piece pieces ih =>
      rw [List.flatMap_cons]
      cases piece with
      | code text => exact (literalValues?_map_code_append _ _).trans ih
      | literal value =>
          simp only [Piece.lexemes, List.cons_append, List.nil_append, literalValues?,
            readBody?_flatMap, ih, List.filterMap_cons, Piece.value?]

theorem Piece.flatMap_erased_lexemes (piece : Piece) :
    piece.lexemes.flatMap Lexeme.erased = piece.erased.toList := by
  cases piece with
  | code text => simp [Piece.lexemes, Piece.erased, List.flatMap_map, Lexeme.erased]
  | literal value => simp [Piece.lexemes, Piece.erased, Lexeme.erased]

theorem literals?_joinPieces {pieces : List Piece} (hpieces : Quoteless pieces) :
    literals? (joinPieces pieces) = some (pieces.filterMap Piece.value?) := by
  rw [literals?, scan_joinPieces hpieces]
  exact literalValues?_flatMap_lexemes pieces

theorem erased?_joinPieces {pieces : List Piece} (hpieces : Quoteless pieces) :
    erased? (joinPieces pieces) = some (String.join (pieces.map Piece.erased)) := by
  rw [erased?, scan_joinPieces hpieces, Option.map_some, Option.some.injEq,
    ← String.toList_inj, String.toList_ofList, String.toList_join, List.flatMap_map,
    List.flatMap_assoc]
  simp only [Piece.flatMap_erased_lexemes]

end WindowScript.Script
