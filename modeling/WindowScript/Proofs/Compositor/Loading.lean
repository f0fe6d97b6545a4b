/-
# Loading a script

The compositor answers a load request with a tuple. What a tuple is, and which one of a
text is the first, is said here without the reader: `IsTuple` gives the texts of tuples
with the integers they hold, and `FirstTuple` is a tuple that no other one stands
before. A parenthesis that opens no tuple does not hide the tuples behind it.

A load request ends in one of four ways, and the reply tells in which: the client
failed, the reply holds no tuple, the first tuple holds a negative integer, or it holds
the id of the script. The requests that follow name the script by the decimal digits of
this id.
-/

import WindowScript.Proofs.Helper.Requests
import WindowScript.Proofs.Number.Numeral

namespace WindowScript.Compositor

open Number (Numeral)

/-! ## Tuples -/

/-- The name of a type in front of an integer, if it is written out. -/
def typeName (typed : Bool) : List Char := if typed then "int32 ".toList else []

/-- The text of a tuple, and the integer that it holds. -/
inductive IsTuple : List Char → Int → Prop
  | plain (typed : Bool) {ds : List Char} {n : Nat} (hds : Numeral ds n) :
      IsTuple ('(' :: (typeName typed ++ (ds ++ [',', ')']))) n
  | minus (typed : Bool) {ds : List Char} {n : Nat} (hds : Numeral ds n) :
      IsTuple ('(' :: (typeName typed ++ '-' :: (ds ++ [',', ')']))) (-n)

/-- A tuple stands at the front of a text. -/
def StartsTuple (cs : List Char) (n : Int) : Prop :=
  ∃ tuple rest, IsTuple tuple n ∧ cs = tuple ++ rest

/-- The leftmost tuple of a text. -/
def FirstTuple (cs : List Char) (n : Int) : Prop :=
  ∃ before rest, cs = before ++ rest ∧ StartsTuple rest n ∧
    ∀ before' rest' m, cs = before' ++ rest' → StartsTuple rest' m →
      before.length ≤ before'.length

/-! ## Reading a tuple -/

theorem tupleDigits?_eq_some_iff {negative : Bool} {cs : List Char} {n : Int} :
    tupleDigits? negative cs = some n ↔ ∃ ds k rest, Numeral ds k ∧
      cs = ds ++ ',' :: ')' :: rest ∧ n = Number.signed negative k := by
  unfold tupleDigits?
  constructor
  · intro hread
    have hsplit := List.takeWhile_append_dropWhile (p := Char.isDigit) (l := cs)
    have hall : (cs.takeWhile Char.isDigit).all Char.isDigit := List.all_takeWhile
    dsimp only at hread
    split at hread
    next rest hdrop =>
        split at hread
        · simp at hread
        next hne =>
            rw [hdrop] at hsplit
            exact ⟨_, _, rest, Number.numeral_iff.mpr ⟨⟨hne, hall⟩, rfl⟩, hsplit.symm,
              (Option.some.inj hread).symm⟩
    next => simp at hread
  · rintro ⟨ds, k, rest, hds, rfl, rfl⟩
    obtain ⟨⟨hne, hall⟩, rfl⟩ := Number.numeral_iff.mp hds
    rw [List.all_eq_true] at hall
    have htake : (ds ++ ',' :: ')' :: rest).takeWhile Char.isDigit = ds := by
      rw [List.takeWhile_append_of_pos hall]
      simp
    have hdrop : (ds ++ ',' :: ')' :: rest).dropWhile Char.isDigit = ',' :: ')' :: rest := by
      rw [List.dropWhile_append_of_pos hall]
      simp
    simp only [htake, hdrop, if_neg hne]

/-- Digits start with no other character. -/
theorem tupleDigits?_of_not_digit {c : Char} (hc : c.isDigit = false) (negative : Bool)
    (cs : List Char) : tupleDigits? negative (c :: cs) = none := by
  rw [Option.eq_none_iff_forall_ne_some]
  intro n hread
  obtain ⟨ds, k, rest, hds, hcs, -⟩ := tupleDigits?_eq_some_iff.mp hread
  cases ds with
  | nil => exact absurd rfl (Number.numeral_iff.mp hds).1.1
  | cons d ds =>
      rw [List.cons_append, List.cons.injEq] at hcs
      exact hds.head_ne hc hcs.1.symm

theorem tupleInt?_eq_some_iff {cs : List Char} {n : Int} :
    tupleInt? cs = some n ↔
      (∃ rest, cs = '-' :: rest ∧ tupleDigits? true rest = some n) ∨
        tupleDigits? false cs = some n := by
  unfold tupleInt?
  split
  next rest => simp [tupleDigits?_of_not_digit]
  next hsign =>
      constructor
      · exact Or.inr
      · rintro (⟨rest, hrest, -⟩ | hread)
        · exact absurd hrest (hsign rest)
        · exact hread

/-- A type name is neither a sign nor a digit. -/
theorem tupleInt?_typeName (rest : List Char) : tupleInt? ("int32 ".toList ++ rest) = none :=
  tupleDigits?_of_not_digit (c := 'i') (by decide) false ("nt32 ".toList ++ rest)

theorem tuple?_eq_some_iff {cs : List Char} {n : Int} :
    tuple? cs = some n ↔ ∃ typed rest, cs = typeName typed ++ rest ∧ tupleInt? rest = some n := by
  unfold tuple?
  split
  next rest hrest =>
      rw [Text.after?_eq_some_iff] at hrest
      subst hrest
      constructor
      · intro hread
        exact ⟨true, rest, rfl, hread⟩
      · rintro ⟨_ | _, rest', hrest', hread⟩
        · obtain rfl : "int32 ".toList ++ rest = rest' := hrest'
          rw [tupleInt?_typeName] at hread
          simp at hread
        · obtain rfl := List.append_cancel_left hrest'
          exact hread
  next hnone =>
      constructor
      · intro hread
        exact ⟨false, cs, rfl, hread⟩
      · rintro ⟨_ | _, rest, rfl, hread⟩
        · exact hread
        · have hname : Text.after? "int32 ".toList (typeName true ++ rest) = some rest :=
            Text.after?_eq_some_iff.mpr rfl
          rw [hname] at hnone
          simp at hnone

/-- Behind an opening parenthesis a tuple is read exactly if one stands there. -/
theorem tuple?_eq_some_iff_startsTuple {cs : List Char} {n : Int} :
    tuple? cs = some n ↔ StartsTuple ('(' :: cs) n := by
  rw [tuple?_eq_some_iff]
  constructor
  · rintro ⟨typed, rest, rfl, hread⟩
    rcases tupleInt?_eq_some_iff.mp hread with ⟨rest, rfl, hread⟩ | hread
    · obtain ⟨ds, k, rest, hds, rfl, rfl⟩ := tupleDigits?_eq_some_iff.mp hread
      exact ⟨_, rest, .minus typed hds, by simp⟩
    · obtain ⟨ds, k, rest, hds, rfl, rfl⟩ := tupleDigits?_eq_some_iff.mp hread
      exact ⟨_, rest, .plain typed hds, by simp⟩
  · rintro ⟨tuple, rest, htuple, hcs⟩
    cases htuple with
    | @plain typed ds k hds =>
        refine ⟨typed, ds ++ ',' :: ')' :: rest, by simpa using hcs, ?_⟩
        exact tupleInt?_eq_some_iff.mpr
          (Or.inr (tupleDigits?_eq_some_iff.mpr ⟨ds, k, rest, hds, rfl, rfl⟩))
    | @minus typed ds k hds =>
        refine ⟨typed, '-' :: (ds ++ ',' :: ')' :: rest), by simpa using hcs, ?_⟩
        exact tupleInt?_eq_some_iff.mpr
          (Or.inl ⟨_, rfl, tupleDigits?_eq_some_iff.mpr ⟨ds, k, rest, hds, rfl, rfl⟩⟩)

theorem StartsTuple.exists_cons {cs : List Char} {n : Int} (hcs : StartsTuple cs n) :
    ∃ rest, cs = '(' :: rest ∧ tuple? rest = some n := by
  obtain ⟨tuple, rest, htuple, rfl⟩ := hcs
  obtain ⟨body, rfl⟩ : ∃ body, tuple = '(' :: body := by
    cases htuple with
    | plain => exact ⟨_, rfl⟩
    | minus => exact ⟨_, rfl⟩
  exact ⟨body ++ rest, rfl, tuple?_eq_some_iff_startsTuple.mpr ⟨_, rest, htuple, rfl⟩⟩

/-! ## The first tuple -/

theorem firstTuple?_of_startsTuple {cs : List Char} {n : Int} (hcs : StartsTuple cs n) :
    firstTuple? cs = some n := by
  obtain ⟨rest, rfl, htuple⟩ := hcs.exists_cons
  rw [firstTuple?, if_pos rfl, htuple]

theorem firstTuple?_cons {c : Char} {cs : List Char} (hcs : ∀ n, ¬ StartsTuple (c :: cs) n) :
    firstTuple? (c :: cs) = firstTuple? cs := by
  rw [firstTuple?]
  split
  next hc =>
      subst hc
      split
      next n htuple => exact absurd (tuple?_eq_some_iff_startsTuple.mp htuple) (hcs n)
      next => rfl
  next => rfl

theorem firstTuple?_append {before rest : List Char}
    (hbefore : ∀ before' rest' m, before ++ rest = before' ++ rest' → StartsTuple rest' m →
      before.length ≤ before'.length) :
    firstTuple? (before ++ rest) = firstTuple? rest := by
  induction before with
  | nil => rfl
  | cons c before ih =>
      have hfront (m : Int) : ¬ StartsTuple (c :: (before ++ rest)) m := fun hstarts =>
        absurd (hbefore [] _ m rfl hstarts) (by simp)
      rw [List.cons_append, firstTuple?_cons hfront]
      apply ih
      intro before' rest' m heq hstarts
      have hle := hbefore (c :: before') rest' m (by rw [List.cons_append, heq]; rfl) hstarts
      simpa using hle

/-- Reading finds the leftmost tuple, if there is one. -/
theorem firstTuple?_eq_some_iff {cs : List Char} {n : Int} :
    firstTuple? cs = some n ↔ FirstTuple cs n := by
  constructor
  · intro hread
    induction cs with
    | nil => simp [firstTuple?] at hread
    | cons c cs ih =>
        by_cases hfront : ∃ m, StartsTuple (c :: cs) m
        · obtain ⟨m, hstarts⟩ := hfront
          rw [firstTuple?_of_startsTuple hstarts, Option.some.injEq] at hread
          subst hread
          exact ⟨[], c :: cs, rfl, hstarts, fun _ _ _ _ _ => Nat.zero_le _⟩
        · rw [not_exists] at hfront
          rw [firstTuple?_cons hfront] at hread
          obtain ⟨before, rest, rfl, hstarts, hfirst⟩ := ih hread
          refine ⟨c :: before, rest, rfl, hstarts, ?_⟩
          intro before' rest' m heq hstarts'
          cases before' with
          | nil => exact absurd (heq ▸ hstarts') (hfront m)
          | cons c' before' =>
              rw [List.cons_append, List.cons.injEq] at heq
              exact Nat.succ_le_succ (hfirst before' rest' m heq.2 hstarts')
  · rintro ⟨before, rest, rfl, hstarts, hfirst⟩
    rw [firstTuple?_append hfirst, firstTuple?_of_startsTuple hstarts]

theorem firstTuple?_eq_none_of_cons {c : Char} {cs : List Char}
    (hread : firstTuple? (c :: cs) = none) : firstTuple? cs = none := by
  rwa [firstTuple?_cons] at hread
  intro n hstarts
  rw [firstTuple?_of_startsTuple hstarts] at hread
  simp at hread

/-- Nothing is read exactly if no tuple stands anywhere. -/
theorem firstTuple?_eq_none_iff {cs : List Char} :
    firstTuple? cs = none ↔ ∀ tuple n, IsTuple tuple n → ¬ tuple <:+: cs := by
  constructor
  · rintro hread tuple n htuple ⟨before, after, rfl⟩
    rw [List.append_assoc] at hread
    induction before with
    | nil =>
        rw [List.nil_append, firstTuple?_of_startsTuple ⟨tuple, after, htuple, rfl⟩] at hread
        simp at hread
    | cons c before ih => exact ih (firstTuple?_eq_none_of_cons hread)
  · intro hnone
    rw [Option.eq_none_iff_forall_ne_some]
    intro n hread
    obtain ⟨before, rest, rfl, ⟨tuple, after, htuple, rfl⟩, -⟩ := firstTuple?_eq_some_iff.mp hread
    exact hnone tuple n htuple ⟨before, after, by simp⟩

/-! ## Load requests -/

/-- What comes of a load request to which the bus client gives the reply. -/
def Client.answered (client : Client) (path : String) (world : World) (reply : Helper.Reply) :
    Performed Number :=
  client.load path { world with replies := reply :: world.replies }

/-- What the run log is told about a script that was loaded. -/
def loadedEvent (id : Number) : List (String × Json) :=
  [("event", .string "script_loaded"), ("scriptId", .number id)]

/-- How a load request ends, told from what the bus client wrote. -/
inductive LoadEnds (client : Client) (path : String) (result : Helper.Result) :
    Except Failure Number → Prop
  | failed (hexit : result.exitCode ≠ 0) :
      LoadEnds client path result (.error (.transport
        (.callFailed loadMethod (client.launch scriptingPath loadMethod [path]).text result)))
  | unexpected (hexit : result.exitCode = 0) (hnone : firstTuple? result.stdout.toList = none) :
      LoadEnds client path result
        (.error (.transport (.unexpectedReply loadMethod result.stdout)))
  | refused (hexit : result.exitCode = 0) {n : Int}
      (hfirst : firstTuple? result.stdout.toList = some n) (hsign : n < 0) :
      LoadEnds client path result (.error (.transport (.refused loadMethod path result.stdout)))
  | loaded (hexit : result.exitCode = 0) {n : Int}
      (hfirst : firstTuple? result.stdout.toList = some n) (hsign : 0 ≤ n) :
      LoadEnds client path result (.ok (Number.ofInt n))

theorem loadEnds_loadedId (client : Client) (path : String) {result : Helper.Result}
    (hexit : result.exitCode = 0) :
    LoadEnds client path result (loadedId path result.stdout) := by
  unfold loadedId scriptId?
  cases hfirst : firstTuple? result.stdout.toList with
  | none => exact .unexpected hexit hfirst
  | some n =>
      simp only [Option.map_some, Number.below_zero_ofInt, decide_eq_true_eq]
      split
      next hsign => exact .refused hexit hfirst hsign
      next hsign => exact .loaded hexit hfirst (Int.not_lt.mp hsign)

/-- A load request ends as the reply tells, and the run log hears of an event exactly if
it ends with an id. -/
theorem Client.answered_ends {client : Client} {world : World}
    (hfound : client.program ∉ world.missing) (path : String) (reply : Helper.Reply) :
    LoadEnds client path reply.result (client.answered path world reply).outcome ∧
    ∀ time fields, .event time fields ∈ (client.answered path world reply).effects ↔
      time = world.clock.instant? ∧
        ∃ id, (client.answered path world reply).outcome = .ok id ∧ fields = loadedEvent id := by
  obtain ⟨before, after, hcall⟩ := (client.asks_call scriptingPath loadMethod [path]).started
    { world with replies := reply :: world.replies } hfound
  dsimp only [List.headD_cons, List.tail_cons] at hcall
  unfold Client.answered Client.load
  rw [Helper.Result.answer] at hcall
  split at hcall
  next hexit =>
      rw [Job.bind_of_ok hcall]
      have hends := loadEnds_loadedId client path hexit
      cases hid : loadedId path reply.result.stdout with
      | error failure =>
          rw [hid] at hends
          refine ⟨hends, fun time fields => ?_⟩
          simp [Job.ofExcept, Job.fail, bind, Job.bind]
      | ok id =>
          rw [hid] at hends
          refine ⟨hends, fun time fields => ?_⟩
          simp [Job.ofExcept, Job.pure, Job.event, pure, bind, Job.bind, loadedEvent]
  next hexit =>
      rw [Job.bind_of_error hcall]
      refine ⟨.failed hexit, fun time fields => ?_⟩
      simp

/-! ## Messages -/

/-- A transport failure whose message starts with the given words. -/
def FailsWith (outcome : Except Failure Number) (words : String) : Prop :=
  ∃ error rest, outcome = .error (.transport error) ∧ error.message = words ++ rest

theorem failsWith_error {error : Transport} {words rest : String}
    (hmessage : error.message = words ++ rest) : FailsWith (.error (.transport error)) words :=
  ⟨error, rest, rfl, hmessage⟩

theorem not_failsWith_ok (id : Number) (words : String) : ¬ FailsWith (.ok id) words := by
  rintro ⟨error, rest, houtcome, -⟩
  cases houtcome

/-- Messages are told apart by their first characters. -/
theorem not_failsWith {error : Transport} {c d : Char} (hne : c ≠ d) {cs ds : List Char}
    {rest : String} (hmessage : error.message = String.ofList (c :: cs) ++ rest) :
    ¬ FailsWith (.error (.transport error)) (String.ofList (d :: ds)) := by
  rintro ⟨error', rest', houtcome, hwords⟩
  obtain rfl := Failure.transport.inj (Except.error.inj houtcome)
  have hchars := congrArg String.toList (hmessage.symm.trans hwords)
  rw [String.toList_append, String.toList_append, String.toList_ofList, String.toList_ofList,
    List.cons_append, List.cons_append] at hchars
  exact hne (List.cons.inj hchars).1

theorem message_callFailed (command : String) (result : Helper.Result) :
    (Transport.callFailed loadMethod command result).message =
      "D-Bus call org.kde.kwin.Scripting.loadScript failed" ++
        (" (exit " ++ Number.decimal result.exitCode ++ "): " ++ result.detail) := by
  have hwords : "D-Bus call " ++ loadMethod ++ " failed (exit " =
      "D-Bus call org.kde.kwin.Scripting.loadScript failed" ++ " (exit " := by decide +kernel
  unfold Transport.message Transport.exitText
  dsimp only
  simp only [← String.append_assoc]
  rw [hwords]

theorem message_unexpectedReply (reply : String) :
    (Transport.unexpectedReply loadMethod reply).message =
      "Unexpected reply" ++ (" from loadScript: " ++ Text.trim reply) := by
  have hwords : "Unexpected reply from loadScript: " =
      "Unexpected reply" ++ " from loadScript: " := by decide +kernel
  unfold Transport.message
  dsimp only
  rw [hwords, String.append_assoc]

theorem message_refused (path reply : String) :
    (Transport.refused loadMethod path reply).message =
      "KWin refused" ++ (" to load script: " ++ path) := by
  have hwords : "KWin refused to load script: " =
      "KWin refused" ++ " to load script: " := by decide +kernel
  unfold Transport.message
  dsimp only
  rw [hwords, String.append_assoc]

namespace LoadEnds

variable {client : Client} {path : String} {result : Helper.Result}
  {outcome : Except Failure Number}

theorem failsWith_call_iff (hends : LoadEnds client path result outcome) :
    FailsWith outcome "D-Bus call org.kde.kwin.Scripting.loadScript failed" ↔
      result.exitCode ≠ 0 := by
  cases hends with
  | failed hexit => exact iff_of_true (failsWith_error (message_callFailed _ result)) hexit
  | unexpected hexit hnone =>
      refine iff_of_false ?_ (not_not_intro hexit)
      with_reducible exact not_failsWith (by decide) (message_unexpectedReply result.stdout)
  | refused hexit hfirst hsign =>
      refine iff_of_false ?_ (not_not_intro hexit)
      with_reducible exact not_failsWith (by decide) (message_refused path result.stdout)
  | loaded hexit hfirst hsign =>
      exact iff_of_false (not_failsWith_ok _ _) (not_not_intro hexit)

theorem failsWith_unexpected_iff (hends : LoadEnds client path result outcome) :
    FailsWith outcome "Unexpected reply" ↔
      result.exitCode = 0 ∧ firstTuple? result.stdout.toList = none := by
  cases hends with
  | failed hexit =>
      refine iff_of_false ?_ fun h => hexit h.1
      with_reducible exact not_failsWith (by decide) (message_callFailed _ result)
  | unexpected hexit hnone =>
      exact iff_of_true (failsWith_error (message_unexpectedReply result.stdout)) ⟨hexit, hnone⟩
  | refused hexit hfirst hsign =>
      refine iff_of_false ?_ (by simp [hfirst])
      with_reducible exact not_failsWith (by decide) (message_refused path result.stdout)
  | loaded hexit hfirst hsign =>
      exact iff_of_false (not_failsWith_ok _ _) (by simp [hfirst])

theorem failsWith_refused_iff (hends : LoadEnds client path result outcome) :
    FailsWith outcome "KWin refused" ↔
      result.exitCode = 0 ∧ ∃ n, firstTuple? result.stdout.toList = some n ∧ n < 0 := by
  cases hends with
  | failed hexit =>
      refine iff_of_false ?_ fun h => hexit h.1
      with_reducible exact not_failsWith (by decide) (message_callFailed _ result)
  | unexpected hexit hnone =>
      refine iff_of_false ?_ (by simp [hnone])
      with_reducible exact not_failsWith (by decide) (message_unexpectedReply result.stdout)
  | refused hexit hfirst hsign =>
      exact iff_of_true (failsWith_error (message_refused path result.stdout))
        ⟨hexit, _, hfirst, hsign⟩
  | loaded hexit hfirst hsign =>
      exact iff_of_false (not_failsWith_ok _ _) (by simp [hfirst, Int.not_lt.mpr hsign])

theorem eq_ok_iff (hends : LoadEnds client path result outcome) {id : Number} :
    outcome = .ok id ↔ result.exitCode = 0 ∧
      ∃ n, firstTuple? result.stdout.toList = some n ∧ 0 ≤ n ∧ id = Number.ofInt n := by
  cases hends with
  | failed hexit => simp [hexit]
  | unexpected hexit hnone => simp [hnone]
  | refused hexit hfirst hsign => simp [hfirst, Int.not_le.mpr hsign]
  | loaded hexit hfirst hsign => simp [hexit, hfirst, hsign, eq_comm]

end LoadEnds

/-! ## Calls on a loaded script -/

/-- Effects that call one method of one object: the bus client is started once, and apart
from that only the run log is told. -/
def Calls (client : Client) (objectPath method : String) (effects : List Effect) : Prop :=
  ∃ (before after : List String) (environment : Helper.Environment), effects =
    before.map .log ++ .launch
      { file := client.program
        args := ["call", "--session", "--dest", "org.kde.KWin", "--object-path", objectPath,
          "--method", method, "--timeout", client.seconds.text] } environment :: after.map .log

theorem scriptPath_eq {n : Nat} (hn : n < Number.twoTo 53) :
    scriptPath (.integer n) = "/Scripting/Script" ++ toString n := by
  have hpath : scriptingPath ++ "/Script" = "/Scripting/Script" := by decide
  have htext : (Number.integer n).text = toString n := by
    rw [Number.text, if_pos (by simpa using hn), Number.decimalInt_eq_toString]
    rfl
  rw [scriptPath, hpath, htext]

theorem calls_of_call {client : Client} {later : World} (hfound : client.program ∉ later.missing)
    (objectPath method : String) :
    Calls client objectPath method
      ((do let _ ← client.call objectPath method []; return () : Job Unit) later).effects := by
  obtain ⟨before, after, hcall⟩ := (client.asks_call objectPath method []).started later hfound
  refine ⟨before, after, later.environment, ?_⟩
  cases hanswer : (later.replies.headD {}).result.answer (client.blame objectPath method []) with
  | error failure =>
      rw [hanswer] at hcall
      rw [Job.bind_of_error hcall]
      rfl
  | ok text =>
      rw [hanswer] at hcall
      rw [Job.bind_of_ok hcall]
      exact List.append_nil _

/-- Loading is decided by the reply. The request returns exactly if the bus client exits
with code 0 and the leftmost tuple of its output is not negative, and the id is that
integer as long as it is below `2 ^ 53`. It fails in three ways, which are told apart by
the exit code and the first tuple in the same manner. An event is logged exactly for an
id. An id in the exact range is read back from any text in which its tuple comes first,
and the later calls name the script by its decimal digits. -/
theorem load_exact (client : Client) (path : String) (reply : Helper.Reply) {world : World}
    (hfound : client.program ∉ world.missing) :
    (∀ id, (client.answered path world reply).outcome = .ok id ↔ reply.result.exitCode = 0 ∧
      ∃ n, FirstTuple reply.result.stdout.toList n ∧ 0 ≤ n ∧ id = Number.ofInt n ∧
        (n < Number.twoTo 53 → id = .integer n)) ∧
    (FailsWith (client.answered path world reply).outcome
        "D-Bus call org.kde.kwin.Scripting.loadScript failed" ↔ reply.result.exitCode ≠ 0) ∧
    (FailsWith (client.answered path world reply).outcome "Unexpected reply" ↔
      reply.result.exitCode = 0 ∧
        ∀ tuple n, IsTuple tuple n → ¬ tuple <:+: reply.result.stdout.toList) ∧
    (FailsWith (client.answered path world reply).outcome "KWin refused" ↔
      reply.result.exitCode = 0 ∧ ∃ n, FirstTuple reply.result.stdout.toList n ∧ n < 0) ∧
    (∀ time fields, .event time fields ∈ (client.answered path world reply).effects ↔
      time = world.clock.instant? ∧
        ∃ id, (client.answered path world reply).outcome = .ok id ∧ fields = loadedEvent id) ∧
    ∀ n : Nat, n < Number.twoTo 53 →
      (∀ before tuple after, IsTuple tuple n →
        (∀ before' rest m, before ++ (tuple ++ after) = before' ++ rest → StartsTuple rest m →
          before.length ≤ before'.length) →
        scriptId? (String.ofList (before ++ (tuple ++ after))) = some (.integer n)) ∧
      ∀ later : World, client.program ∉ later.missing →
        Calls client ("/Scripting/Script" ++ toString n) "org.kde.kwin.Script.run"
          (client.start (.integer n) later).effects ∧
        Calls client ("/Scripting/Script" ++ toString n) "org.kde.kwin.Script.stop"
          (client.stop (.integer n) later).effects := by
  obtain ⟨hends, hevents⟩ := client.answered_ends hfound path reply
  have hexact {n : Int} (hsign : 0 ≤ n) (hn : n < Number.twoTo 53) :
      Number.ofInt n = .integer n := if_pos (by omega)
  refine ⟨fun id => ?_, hends.failsWith_call_iff, ?_, ?_, hevents, fun n hn => ⟨?_, ?_⟩⟩
  · simp only [hends.eq_ok_iff, firstTuple?_eq_some_iff]
    constructor
    · rintro ⟨hexit, n, hfirst, hsign, rfl⟩
      exact ⟨hexit, n, hfirst, hsign, rfl, hexact hsign⟩
    · rintro ⟨hexit, n, hfirst, hsign, rfl, -⟩
      exact ⟨hexit, n, hfirst, hsign, rfl⟩
  · rw [hends.failsWith_unexpected_iff, firstTuple?_eq_none_iff]
  · simp only [hends.failsWith_refused_iff, firstTuple?_eq_some_iff]
  · intro before tuple after htuple hfirst
    have hread : firstTuple? (before ++ (tuple ++ after)) = some (n : Int) :=
      firstTuple?_eq_some_iff.mpr ⟨before, _, rfl, ⟨tuple, after, htuple, rfl⟩, hfirst⟩
    rw [scriptId?, String.toList_ofList, hread, Option.map_some,
      hexact (Int.natCast_nonneg n) (Int.ofNat_lt.mpr hn)]
  · intro later hlater
    rw [← scriptPath_eq hn]
    exact ⟨calls_of_call hlater _ _, calls_of_call hlater _ _⟩

/-- The reply to a load request, between a parenthesis that opens nothing and a second
tuple. -/
def nestedReply : Helper.Reply :=
  { stdout := Text.Utf8.encode "((int32 7,)(-1,)".toList }

theorem load_exact_nested :
    ({ timeout := .integer 5000 } : Client).program ∉ ({ clock := none } : World).missing ∧
      (Client.answered { timeout := .integer 5000 } "a.js" { clock := none } nestedReply).outcome =
        .ok (.integer 7) ∧
      Calls { timeout := .integer 5000 } "/Scripting/Script7" "org.kde.kwin.Script.run"
        (Client.start { timeout := .integer 5000 } (.integer 7) { clock := none }).effects := by
  have hfound : ({ timeout := .integer 5000 } : Client).program ∉
      ({ clock := none } : World).missing := List.not_mem_nil
  obtain ⟨hok, -, -, -, -, hlater⟩ :=
    load_exact { timeout := .integer 5000 } "a.js" nestedReply hfound
  have hfirst : FirstTuple nestedReply.result.stdout.toList 7 :=
    firstTuple?_eq_some_iff.mp (by decide +kernel)
  refine ⟨hfound, (hok _).mpr ⟨rfl, 7, hfirst, by decide, ?_, fun _ => rfl⟩, ?_⟩
  · decide +kernel
  · exact ((hlater 7 (by decide)).2 _ hfound).1

end WindowScript.Compositor
