/-
# Reading JSON text back

Cutting a text into tokens and running the machine on them is one reading, which goes on
from a state with the rest of the text. So what a text is read as is said wherever a value
may stand, inside any open arrays and objects and in front of any rest that does not go on
with a word, and a whole text is read part by part.

A value is read back as itself, but for its objects: they come back with every key once,
in the order in which members are written, and with the last value given for the key. This
holds for values whose numbers are integers that double precision holds exactly.
-/

import Mathlib.Data.List.Forall2
import Mathlib.Data.List.TakeWhile
import Mathlib.Tactic.Choose
import WindowScript.Json.Reader
import WindowScript.Proofs.Json.Members
import WindowScript.Proofs.Number.Numeral
import WindowScript.Proofs.Number.Rounding

namespace WindowScript.Json

/-! ## What is asked for -/

/-- Values whose numbers are integers below `2 ^ 53` in magnitude. -/
inductive Plain : Json → Prop
  | null : Plain .null
  | bool (b : Bool) : Plain (.bool b)
  | integer {n : Int} (hn : n.natAbs < Number.twoTo 53) : Plain (.number (.integer n))
  | string (s : String) : Plain (.string s)
  | array {items : List Json} (hitems : ∀ item ∈ items, Plain item) : Plain (.array items)
  | object {members : List (String × Json)} (hmembers : ∀ member ∈ members, Plain member.2) :
      Plain (.object members)

/-- What stands for a value that was given: a scalar for itself, an array item by item, and
an object for one that has the keys in order, each with what stands for its last value. -/
inductive StandsFor : Json → Json → Prop
  | null : StandsFor .null .null
  | bool (b : Bool) : StandsFor (.bool b) (.bool b)
  | number (n : Number) : StandsFor (.number n) (.number n)
  | string (s : String) : StandsFor (.string s) (.string s)
  | array {items given : List Json} (hitems : List.Forall₂ StandsFor items given) :
      StandsFor (.array items) (.array given)
  | object {members given : List (String × Json)} {indices others : List String}
      (harranged : Arranged (given.map Prod.fst) indices others)
      (hkeys : members.map Prod.fst = indices ++ others)
      (hvalues : ∀ key value last, (key, value) ∈ members → lastGiven? given key = some last →
        StandsFor value last) :
      StandsFor (.object members) (.object given)

theorem StandsFor.eq_string {value : Json} {s : String} (hstands : StandsFor value (.string s)) :
    value = .string s := by
  cases hstands
  rfl

theorem StandsFor.exists_object {value : Json} {given : List (String × Json)}
    (hstands : StandsFor value (.object given)) :
    ∃ members indices others, value = .object members ∧
      Arranged (given.map Prod.fst) indices others ∧ members.map Prod.fst = indices ++ others ∧
      ∀ key last, lastGiven? given key = some last →
        ∃ value, (key, value) ∈ members ∧ StandsFor value last := by
  cases hstands with
  | @object members _ indices others harranged hkeys hvalues =>
      refine ⟨members, indices, others, rfl, harranged, hkeys, ?_⟩
      intro key last hlast
      have hgiven : key ∈ given.map Prod.fst := lastGiven?_isSome_iff.mp (by rw [hlast]; rfl)
      rw [← harranged.mem_append_iff, ← hkeys, List.mem_map] at hgiven
      obtain ⟨⟨name, value⟩, hmember, rfl⟩ := hgiven
      exact ⟨value, hmember, hvalues _ _ _ hmember hlast⟩

/-! ## Going on from a state -/

/-- Read a text from a state of the machine on. -/
def resume (state : State) (cs : List Char) : Option State :=
  (tokensAfter [] cs).bind state.run

theorem run_cons (state : State) (token : Token) (tokens : List Token) :
    state.run (token :: tokens) = (state.step token).bind (·.run tokens) := by
  rw [State.run]
  cases state.step token <;> rfl

theorem tokensAfter_cons {c : Char} (hspace : isSpace c = false) (cs : List Char)
    (done : List Token) : tokensAfter done (c :: cs) =
      (nextToken c cs).bind fun found => tokensAfter (found.1 :: done) found.2 := by
  rw [tokensAfter]
  simp only [hspace, Bool.false_eq_true, if_false]
  split
  next hread => rw [hread, Option.bind_some]
  next hread => rw [hread, Option.bind_none]

/-- Tokens that were read before stay in front. -/
theorem tokensAfter_eq (done : List Token) (cs : List Char) :
    tokensAfter done cs = (tokensAfter [] cs).map (done.reverse ++ ·) := by
  -- By length, as a token uses up several characters. Both sides take the first token, so
  -- the hypothesis is needed for two lists of earlier tokens.
  induction hlength : cs.length using Nat.strongRecOn generalizing done cs with
  | ind n ih =>
      cases cs with
      | nil => simp [tokensAfter]
      | cons c cs =>
          cases hspace : isSpace c with
          | true =>
              rw [tokensAfter, if_pos hspace, tokensAfter, if_pos hspace]
              exact ih cs.length (by simp [← hlength]) done cs rfl
          | false =>
              rw [tokensAfter_cons hspace, tokensAfter_cons hspace]
              cases hread : nextToken c cs with
              | none => rfl
              | some found =>
                  obtain ⟨token, rest⟩ := found
                  have hshort : rest.length < n := by
                    rw [← hlength, List.length_cons]
                    exact Nat.lt_succ_of_le (length_of_nextToken hread)
                  rw [Option.bind_some, Option.bind_some, ih _ hshort (token :: done) rest rfl,
                    ih _ hshort [token] rest rfl, Option.map_map]
                  congr 1
                  funext tokens
                  simp

/-- A token makes the machine take one step. -/
theorem resume_cons {c : Char} (hspace : isSpace c = false) (cs : List Char) (state : State) :
    resume state (c :: cs) = (nextToken c cs).bind fun found =>
      (state.step found.1).bind (resume · found.2) := by
  rw [resume, tokensAfter_cons hspace]
  cases nextToken c cs with
  | none => rfl
  | some found =>
      rw [Option.bind_some, Option.bind_some, tokensAfter_eq]
      cases htokens : tokensAfter [] found.2 with
      | none => cases state.step found.1 <;> simp [resume, htokens]
      | some tokens => simp [resume, htokens, run_cons]

theorem resume_nil (state : State) : resume state [] = some state := by
  simp [resume, tokensAfter, State.run]

/-! ## Values in a text -/

/-- A text that does not go on with a word. -/
def Ends (rest : List Char) : Prop := ∀ c ∈ rest.head?, isWord c = false

/-- A state in which a value may start inside these frames. The end of an array need not
be refused, as the first item of an array may be missing. -/
def Expects (state : State) (frames : List Frame) : Prop :=
  ∀ token, token ≠ .endArray → state.step token = State.start frames token

theorem expects_value (frames : List Frame) : Expects (.value frames) frames :=
  fun _ _ => rfl

theorem expects_firstItem (frames : List Frame) :
    Expects (.firstItem frames) (.array [] :: frames) := by
  intro token htoken
  cases token with
  | endArray => exact absurd rfl htoken
  | _ => rfl

/-- A text is read as a value wherever a value may stand. -/
def Reads (text : List Char) (value : Json) : Prop :=
  ∀ state frames rest, Expects state frames → Ends rest →
    resume state (text ++ rest) = resume (.after frames value) rest

theorem parse?_of_reads {value found : Json} (hreads : Reads value.chars found) :
    parse? value.text = some found := by
  have hread : resume (.value []) value.chars = some (.after [] found) := by
    have hwhole := hreads _ [] [] (expects_value []) (by simp [Ends])
    rwa [List.append_nil, resume_nil] at hwhole
  rw [resume, Option.bind_eq_some_iff] at hread
  obtain ⟨tokens, htokens, hrun⟩ := hread
  rw [parse?, text, String.toList_ofList, htokens]
  simp only [hrun]

/-! ## Words -/

theorem nextToken_word {c : Char} (hc : isWord c = true) (cs : List Char) :
    nextToken c cs = (word? (c :: cs.takeWhile isWord)).map fun value =>
      (.scalar value, cs.dropWhile isWord) := by
  unfold nextToken
  split
  case h_8 => cases word? (c :: cs.takeWhile isWord) <;> rfl
  all_goals exact absurd hc (by decide)

theorem isSpace_of_isWord {c : Char} (hc : isWord c = true) : isSpace c = false := by
  rw [← Bool.not_eq_true]
  intro hspace
  simp only [isSpace, Bool.or_eq_true, decide_eq_true_eq] at hspace
  rcases hspace with ((rfl | rfl) | rfl) | rfl <;> exact absurd hc (by decide)

/-- Words are read to their end. -/
theorem reads_word {word : List Char} {value : Json} (hne : word ≠ [])
    (hall : word.all isWord = true) (hword : word? word = some value) : Reads word value := by
  obtain ⟨c, cs, rfl⟩ := List.exists_cons_of_ne_nil hne
  obtain ⟨hc, hcs⟩ := List.forall_mem_cons.mp (List.all_eq_true.mp hall)
  intro state frames rest hstate hrest
  have htake : rest.takeWhile isWord = [] ∧ rest.dropWhile isWord = rest := by
    cases rest with
    | nil => exact ⟨rfl, rfl⟩
    | cons next rest =>
        have hnext : isWord next = false := hrest next rfl
        simp [hnext]
  rw [List.cons_append, resume_cons (isSpace_of_isWord hc), nextToken_word hc,
    List.takeWhile_append_of_pos hcs, List.dropWhile_append_of_pos hcs, htake.1, htake.2,
    List.append_nil, hword, Option.map_some, Option.bind_some, hstate (.scalar value) nofun]
  rfl

theorem reads_null : Reads "null".toList .null :=
  reads_word (by decide) (by decide) rfl

theorem reads_bool (b : Bool) : Reads (chars (.bool b)) (.bool b) := by
  rw [chars]
  cases b with
  | true => exact reads_word (by decide) (by decide) rfl
  | false => exact reads_word (by decide) (by decide) rfl

/-! ## Integers -/

theorem magnitude?_digits (negative : Bool) {n : Nat} (hn : n < Number.twoTo 53) :
    magnitude? negative (Number.digits n) = some (.integer (Number.signed negative n)) := by
  obtain ⟨⟨hne, hall⟩, hvalue⟩ := Number.numeral_iff.mp (Number.numeral_digits n)
  rw [List.all_eq_true] at hall
  have htake : (Number.digits n).takeWhile Char.isDigit = Number.digits n :=
    List.takeWhile_eq_self_iff.mpr hall
  have hdrop : (Number.digits n).dropWhile Char.isDigit = [] :=
    List.dropWhile_eq_nil_iff.mpr hall
  have hfront : ¬ (Number.digits n = [] ∨
      ((Number.digits n).head? = some '0' ∧ Number.digits n ≠ ['0'])) := by
    rintro (hnil | ⟨hzero, hlong⟩)
    · exact hne hnil
    · by_cases hpos : n = 0
      · exact hlong (by rw [hpos]; rfl)
      · exact Number.head?_digits_ne hpos hzero
  have hexact : Number.ofDecimal negative n 0 = .integer (Number.signed negative n) := by
    rw [Number.ofDecimal, if_pos (Int.le_refl 0)]
    show Number.ofInt (Number.signed negative (n * 1)) = _
    rw [Nat.mul_one, Number.ofInt, Number.natAbs_signed, if_pos hn]
  rw [magnitude?]
  simp only [htake, hdrop, if_neg hfront, places?, exponent?, List.append_nil, hvalue]
  exact congrArg some hexact

theorem word?_minus (cs : List Char) : word? ('-' :: cs) = (magnitude? true cs).map .number :=
  rfl

theorem word?_digit {c : Char} (hc : c.isDigit = true) (cs : List Char) :
    word? (c :: cs) = (magnitude? false (c :: cs)).map .number := by
  have hne {other : Char} (hother : other.isDigit = false) : c ≠ other := by
    rintro rfl
    exact absurd hc (by simp [hother])
  unfold word?
  rw [if_neg (by simp [hne]), if_neg (by simp [hne]), if_neg (by simp [hne])]
  split
  next heq => exact absurd (List.cons.inj heq).1 (hne (by decide))
  next => rfl

theorem isWord_of_isDigit {c : Char} (hc : c.isDigit = true) : isWord c = true := by
  simp [isWord, Char.isAlphanum, hc]

theorem reads_decimalInt {n : Int} (hn : n.natAbs < Number.twoTo 53) :
    Reads (Number.decimalInt n).toList (.number (.integer n)) := by
  obtain ⟨⟨hne, hall⟩, -⟩ := Number.numeral_iff.mp (Number.numeral_digits n.natAbs)
  rw [List.all_eq_true] at hall
  have hword : (Number.digits n.natAbs).all isWord = true :=
    List.all_eq_true.mpr fun c hc => isWord_of_isDigit (hall c hc)
  rw [Number.toList_decimalInt]
  split
  next hneg =>
      apply reads_word (List.cons_ne_nil _ _) (by rw [List.all_cons, hword]; rfl)
      have hsigned : Number.signed true n.natAbs = n := by
        rw [Number.signed, if_pos rfl]
        omega
      rw [word?_minus, magnitude?_digits true hn, hsigned]
      rfl
  next hneg =>
      apply reads_word hne hword
      have hsigned : Number.signed false n.natAbs = n := by
        rw [Number.signed, if_neg (by decide)]
        omega
      obtain ⟨d, ds, hds⟩ := List.exists_cons_of_ne_nil hne
      rw [hds, word?_digit (hall d (hds ▸ List.mem_cons_self)), ← hds, magnitude?_digits false hn,
        hsigned]
      rfl

theorem chars_integer {n : Int} (hn : n.natAbs < Number.twoTo 53) :
    chars (.number (.integer n)) = (Number.decimalInt n).toList := by
  rw [chars, numberText, Number.text, if_pos hn]
  intro negative heq
  cases heq

/-! ## Strings -/

theorem readsAs_forbidden (c : Char) : Text.ReadsAs isForbidden (Text.escape c) c := by
  apply Text.readsAs_escape
  intro hc
  exact decide_eq_false (Nat.not_lt.mpr hc)

/-- A string is one token. -/
theorem resume_quoted (s : String) (rest : List Char) (state : State) :
    resume state (quoted s ++ rest) =
      (state.step (.scalar (.string s))).bind (resume · rest) := by
  have htoken : nextToken '"' (s.toList.flatMap Text.escape ++ '"' :: rest) =
      some (.scalar (.string s), rest) := by
    simp [nextToken, Text.unquote_flatMap readsAs_forbidden]
  have hquoted : quoted s ++ rest = '"' :: (s.toList.flatMap Text.escape ++ '"' :: rest) := by
    simp [quoted, Text.quoteWith]
  rw [hquoted, resume_cons (by decide), htoken]
  rfl

theorem reads_quoted (s : String) : Reads (quoted s) (.string s) := by
  intro state frames rest hstate _
  rw [resume_quoted, hstate (.scalar (.string s)) nofun]
  rfl

/-! ## Arrays and objects -/

/-- A character that is a token of its own makes the machine take one step. -/
theorem resume_mark {c : Char} {cs : List Char} {token : Token} {state next : State}
    (hspace : isSpace c = false) (hread : nextToken c cs = some (token, cs))
    (hstep : state.step token = some next) : resume state (c :: cs) = resume next cs := by
  rw [resume_cons hspace, hread, Option.bind_some, hstep, Option.bind_some]

theorem ends_cons {c : Char} (hc : isWord c = false) (rest : List Char) : Ends (c :: rest) := by
  intro first hfirst
  cases hfirst
  exact hc

theorem separated_singleton (text : List Char) : separated [text] = text :=
  List.intercalate_singleton

theorem separated_cons_cons (text next : List Char) (texts : List (List Char)) (rest : List Char) :
    separated (text :: next :: texts) ++ rest =
      text ++ ',' :: (separated (next :: texts) ++ rest) := by
  simp [separated, List.intercalate_cons_cons]

/-- Parts with commas between them are read one by one. A state is `ready` for a part after
those that are done, and `held` is the state after a part; parts that are done are held
last first. -/
theorem resume_separated {α : Type} {R : List Char → α → Prop} (ready : State → List α → Prop)
    (held : α → List α → State)
    (hread : ∀ text part state done rest, R text part → ready state done → Ends rest →
      resume state (text ++ rest) = resume (held part done) rest)
    (hcomma : ∀ part done, ∃ next, (held part done).step .comma = some next ∧
      ready next (part :: done))
    {text : List Char} {part : α} (hpart : R text part) {texts : List (List Char)} {parts : List α}
    (hparts : List.Forall₂ R texts parts) {state : State} {done : List α}
    (hstate : ready state done) {rest : List Char} (hrest : Ends rest) :
    ∃ last before, last :: before = (part :: parts).reverse ++ done ∧
      resume state (separated (text :: texts) ++ rest) = resume (held last before) rest := by
  induction hparts generalizing text part state done with
  | nil =>
      rw [separated_singleton]
      exact ⟨part, done, rfl, hread _ _ _ _ _ hpart hstate hrest⟩
  | @cons later another texts parts hlater _ ih =>
      obtain ⟨next, hstep, hnext⟩ := hcomma part done
      obtain ⟨last, before, hdone, hresume⟩ := ih hlater hnext
      refine ⟨last, before, by simp [hdone], ?_⟩
      calc resume state (separated (text :: later :: texts) ++ rest)
          = resume (held part done) (',' :: (separated (later :: texts) ++ rest)) := by
            rw [separated_cons_cons]
            exact hread _ _ _ _ _ hpart hstate (ends_cons (by decide) _)
        _ = resume next (separated (later :: texts) ++ rest) := resume_mark rfl rfl hstep
        _ = resume (held last before) rest := hresume

theorem reads_array {texts : List (List Char)} {values : List Json}
    (hall : List.Forall₂ Reads texts values) :
    Reads ('[' :: separated texts ++ [']']) (.array values) := by
  intro state frames rest hstate _
  have hopen : resume state ('[' :: (separated texts ++ ']' :: rest)) =
      resume (.firstItem frames) (separated texts ++ ']' :: rest) :=
    resume_mark rfl rfl (hstate _ nofun)
  rw [List.cons_append, List.cons_append, List.append_assoc, List.singleton_append, hopen]
  cases hall with
  | nil => exact resume_mark rfl rfl rfl
  | @cons text value texts values hfirst hall =>
      obtain ⟨last, before, hdone, hresume⟩ := resume_separated
        (fun state done => Expects state (.array done :: frames))
        (fun item done => .after (.array done :: frames) item)
        (fun _ _ _ _ _ hreads => hreads _ _ _) (fun _ _ => ⟨_, rfl, expects_value _⟩)
        hfirst hall (expects_firstItem frames) (ends_cons (by decide : isWord ']' = false) rest)
      calc resume (.firstItem frames) (separated (text :: texts) ++ ']' :: rest)
          = resume (.after (.array before :: frames) last) (']' :: rest) := hresume
        _ = resume (.after frames (.array (last :: before).reverse)) rest :=
            resume_mark rfl rfl rfl
        _ = resume (.after frames (.array (value :: values))) rest := by
            rw [hdone, List.append_nil, List.reverse_reverse]

/-- A text is read as a member of an object: its key, a colon and its value. -/
def ReadsMember (text : List Char) (member : String × Json) : Prop :=
  ∃ written, text = memberText (member.1, written) ∧ Reads written member.2

theorem ReadsMember.resume_append {text : List Char} {member : String × Json}
    (hreads : ReadsMember text member) {state : State} {frames : List Frame}
    {done : List (String × Json)}
    (hstate : ∀ key, state.step (.scalar (.string key)) = some (.colon frames done key))
    {rest : List Char} (hrest : Ends rest) :
    resume state (text ++ rest) =
      resume (.after (.object done member.1 :: frames) member.2) rest := by
  obtain ⟨written, rfl, hvalue⟩ := hreads
  calc resume state (memberText (member.1, written) ++ rest)
      = resume (.colon frames done member.1) (':' :: (written ++ rest)) := by
        rw [memberText, List.append_assoc, resume_quoted, hstate]
        rfl
    _ = resume (.value (.object done member.1 :: frames)) (written ++ rest) :=
        resume_mark rfl rfl rfl
    _ = resume (.after (.object done member.1 :: frames) member.2) rest :=
        hvalue _ _ _ (expects_value _) hrest

theorem reads_object {texts : List (List Char)} {members : List (String × Json)}
    (hall : List.Forall₂ ReadsMember texts members) :
    Reads ('\x7b' :: separated texts ++ ['\x7d']) (.object members) := by
  intro state frames rest hstate _
  have hopen : resume state ('\x7b' :: (separated texts ++ '\x7d' :: rest)) =
      resume (.firstKey frames) (separated texts ++ '\x7d' :: rest) :=
    resume_mark rfl rfl (hstate _ nofun)
  rw [List.cons_append, List.cons_append, List.append_assoc, List.singleton_append, hopen]
  cases hall with
  | nil => exact resume_mark rfl rfl rfl
  | @cons text member texts members hfirst hall =>
      have hkey (key : String) : (State.firstKey frames).step (.scalar (.string key)) =
          some (.colon frames [] key) := rfl
      obtain ⟨last, before, hdone, hresume⟩ := resume_separated
        (fun state done =>
          ∀ key, state.step (.scalar (.string key)) = some (.colon frames done key))
        (fun member done => .after (.object done member.1 :: frames) member.2)
        (fun _ _ _ _ _ hreads hstate => hreads.resume_append hstate)
        (fun _ _ => ⟨_, rfl, fun _ => rfl⟩) hfirst hall hkey
        (ends_cons (by decide : isWord '\x7d' = false) rest)
      calc resume (.firstKey frames) (separated (text :: texts) ++ '\x7d' :: rest)
          = resume (.after (.object before last.1 :: frames) last.2) ('\x7d' :: rest) := hresume
        _ = resume (.after frames (.object (last :: before).reverse)) rest :=
            resume_mark rfl rfl rfl
        _ = resume (.after frames (.object (member :: members))) rest := by
            rw [hdone, List.append_nil, List.reverse_reverse]

/-! ## All values -/

instance : Nonempty Json := ⟨.null⟩

theorem itemTexts_eq_map (items : List Json) : itemTexts items = items.map chars := by
  induction items with
  | nil => rfl
  | cons item items ih => rw [itemTexts, ih, List.map_cons]

theorem memberTexts_eq_map (members : List (String × Json)) :
    memberTexts members = members.map fun member => (member.1, chars member.2) := by
  induction members with
  | nil => rfl
  | cons member members ih => rw [memberTexts, ih, List.map_cons]

theorem exists_reads_array {items : List Json}
    (hitems : ∀ item ∈ items, ∃ value, Reads item.chars value ∧ StandsFor value item) :
    ∃ value, Reads (chars (.array items)) value ∧ StandsFor value (.array items) := by
  choose! found hreads hstands using hitems
  refine ⟨.array (items.map found), ?_, .array ?_⟩
  · rw [chars, itemTexts_eq_map]
    apply reads_array
    rw [List.forall₂_map_left_iff, List.forall₂_map_right_iff, List.forall₂_same]
    exact hreads
  · rw [List.forall₂_map_left_iff, List.forall₂_same]
    exact hstands

theorem keys_memberTexts (members : List (String × Json)) :
    (memberTexts members).map Prod.fst = members.map Prod.fst := by
  rw [memberTexts_eq_map, List.map_map]
  rfl

/-- What is written for a key is the text of the last value given for it. -/
theorem exists_last_of_mem_arrange {members : List (String × Json)} {written : String × List Char}
    (hwritten : written ∈ arrange (memberTexts members)) :
    ∃ last, lastGiven? members written.1 = some last ∧ written.2 = last.chars := by
  rw [mem_arrange_iff, memberTexts_eq_map, lastGiven?_map, Option.map_eq_some_iff] at hwritten
  obtain ⟨last, hlast, htext⟩ := hwritten
  exact ⟨last, hlast, htext.symm⟩

theorem exists_reads_object {members : List (String × Json)}
    (hmembers : ∀ member ∈ members,
      ∃ value, Reads member.2.chars value ∧ StandsFor value member.2) :
    ∃ value, Reads (chars (.object members)) value ∧ StandsFor value (.object members) := by
  have hwritten : ∀ written ∈ arrange (memberTexts members), ∃ value, Reads written.2 value ∧
      ∀ last, lastGiven? members written.1 = some last → StandsFor value last := by
    intro written hmem
    obtain ⟨last, hlast, htext⟩ := exists_last_of_mem_arrange hmem
    obtain ⟨value, hreads, hstands⟩ := hmembers (written.1, last) (mem_of_lastGiven? hlast)
    refine ⟨value, htext ▸ hreads, fun other hother => ?_⟩
    cases hlast.symm.trans hother
    exact hstands
  choose! found hreads hstands using hwritten
  refine ⟨.object ((arrange (memberTexts members)).map fun written => (written.1, found written)),
    ?_, .object (keys_memberTexts members ▸ arranged_keys (memberTexts members)) ?_ ?_⟩
  · rw [chars]
    apply reads_object
    rw [List.forall₂_map_left_iff, List.forall₂_map_right_iff, List.forall₂_same]
    exact fun written hmem => ⟨written.2, rfl, hreads written hmem⟩
  · rw [List.map_map, ← List.map_append, ← arrange_eq]
    rfl
  · intro key value last hmem hlast
    obtain ⟨written, hwritten, heq⟩ := List.mem_map.mp hmem
    cases heq
    exact hstands written hwritten last hlast

/-- A plain value is read back. -/
theorem exists_reads {given : Json} (hplain : Plain given) :
    ∃ value, Reads given.chars value ∧ StandsFor value given := by
  induction hplain with
  | null => exact ⟨.null, by rw [chars]; exact reads_null, .null⟩
  | bool b => exact ⟨.bool b, reads_bool b, .bool b⟩
  | @integer n hn => exact ⟨_, by rw [chars_integer hn]; exact reads_decimalInt hn, .number _⟩
  | string s => exact ⟨.string s, by rw [chars]; exact reads_quoted s, .string s⟩
  | array _ ih => exact exists_reads_array ih
  | object _ ih => exact exists_reads_object ih

end WindowScript.Json
