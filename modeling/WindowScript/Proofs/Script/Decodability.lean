/-
# The program behind a script

A script is a flat text, and yet the program can be read off it: the marker, whether
it reports what it does, and every step with its texts and its position. The text is
cut into code and literals first. After that the steps form a code in which no word
is the beginning of another, and neither is the text that ends a script: wherever two
different steps start at the same place, they part before either of them ends. So two
scripts agree only where their programs do.
-/

import WindowScript.Proofs.Journal.Marker
import WindowScript.Proofs.Script.Injection

namespace WindowScript

namespace Script

/-! ## Words that part -/

/-- A list of words is read off their concatenation, if the words and what ends the
list part from each other. -/
theorem eq_of_flatMap_append_eq {α β : Type} {word : α → List β} {stop : List β}
    (hword : ∀ {a b}, a ≠ b → Diverge (word a) (word b)) (hstop : ∀ a, Diverge (word a) stop)
    {as bs : List α} (heq : as.flatMap word ++ stop = bs.flatMap word ++ stop) : as = bs := by
  induction as generalizing bs with
  | nil =>
      cases bs with
      | nil => rfl
      | cons b bs =>
          rw [List.flatMap_cons, List.append_assoc] at heq
          exact absurd (by simpa using heq.symm) ((hstop b).append_ne _ [])
  | cons a as ih =>
      cases bs with
      | nil =>
          rw [List.flatMap_cons, List.append_assoc] at heq
          exact absurd (by simpa using heq) ((hstop a).append_ne _ [])
      | cons b bs =>
          rw [List.flatMap_cons, List.flatMap_cons, List.append_assoc, List.append_assoc] at heq
          by_cases hab : a = b
          · subst hab
            rw [ih (List.append_cancel_left heq)]
          · exact absurd heq ((hword hab).append_ne _ _)

/-! ## Pieces that part -/

/-- The texts of two lists of pieces part, whatever follows them. -/
def Apart (first second : List Piece) : Prop :=
  Diverge (first.flatMap Piece.lexemes) (second.flatMap Piece.lexemes)

section

variable {pieces pieces' : List Piece}

theorem Apart.symm (hapart : Apart pieces pieces') : Apart pieces' pieces := Diverge.symm hapart

theorem apart_cons_iff (piece : Piece) :
    Apart (piece :: pieces) (piece :: pieces') ↔ Apart pieces pieces' :=
  diverge_append_iff piece.lexemes

theorem flatMap_lexemes_code_append (text text' : String) (pieces : List Piece) :
    (.code (text ++ text') :: pieces).flatMap Piece.lexemes =
      (.code text :: .code text' :: pieces).flatMap Piece.lexemes := by
  simp [List.flatMap_cons, Piece.lexemes]

theorem apart_code_append_left (text text' : String) :
    Apart (.code (text ++ text') :: pieces) pieces' ↔
      Apart (.code text :: .code text' :: pieces) pieces' := by
  rw [Apart, flatMap_lexemes_code_append, Apart]

theorem apart_code_append_right (text text' : String) :
    Apart pieces (.code (text ++ text') :: pieces') ↔
      Apart pieces (.code text :: .code text' :: pieces') := by
  rw [Apart, flatMap_lexemes_code_append, Apart]

theorem apart_of_diverge {text text' : String} (hdiverge : Diverge text.toList text'.toList) :
    Apart (.code text :: pieces) (.code text' :: pieces') := by
  have hcode : Function.Injective Lexeme.code := fun _ _ => Lexeme.code.inj
  simp only [Apart, List.flatMap_cons, Piece.lexemes]
  exact ((diverge_map_iff hcode).mpr hdiverge).append _ _

/-- Texts that are given by their characters are compared without decoding them. -/
theorem apart_ofList {cs cs' : List Char} (hdiverge : Diverge cs cs') :
    Apart (.code (String.ofList cs) :: pieces) (.code (String.ofList cs') :: pieces') := by
  apply apart_of_diverge
  rwa [String.toList_ofList, String.toList_ofList]

theorem apart_literal {value value' : String} (hne : value ≠ value') :
    Apart (.literal value :: pieces) (.literal value' :: pieces') := by
  apply diverge_of_append_ne
  intro rest rest' heq
  have hbody := (List.cons.inj heq).1
  have hread := congrArg readBody? (Lexeme.literal.inj hbody)
  rw [readBody?_flatMap, readBody?_flatMap] at hread
  exact hne (Option.some.inj hread)

end

/-- Different words part at the space behind the shorter one at the latest. -/
theorem diverge_words {word word' rest rest' : List Char} (hword : ' ' ∉ word)
    (hword' : ' ' ∉ word') (hne : word ≠ word') :
    Diverge (word ++ ' ' :: rest) (word' ++ ' ' :: rest') := by
  apply diverge_of_append_ne
  intro more more' heq
  rw [List.append_assoc, List.append_assoc] at heq
  have hfirst := congrArg (List.takeWhile (· ≠ ' ')) heq
  rw [Journal.takeWhile_ne_space hword rfl, Journal.takeWhile_ne_space hword' rfl] at hfirst
  exact hne hfirst

/-- Different positions part, if a space follows both. -/
theorem apart_decimalInt {m n : Int} (hne : m ≠ n) {cs : List Char} {pieces pieces' : List Piece} :
    Apart (.code (Number.decimalInt m) :: .code (String.ofList (' ' :: cs)) :: pieces)
      (.code (Number.decimalInt n) :: .code (String.ofList (' ' :: cs)) :: pieces') := by
  have hspace (k : Int) : ' ' ∉ (Number.decimalInt k).toList :=
    Number.not_mem_decimalInt (by decide) (by decide) k
  rw [← apart_code_append_left, ← apart_code_append_right]
  apply apart_of_diverge
  rw [String.toList_append, String.toList_append, String.toList_ofList]
  refine diverge_words (hspace m) (hspace n) fun heq => hne ?_
  exact Number.eq_of_decimalInt_eq (String.toList_inj.mp heq)

/-! ## Steps that part -/

/-- What a step announces that it is about. -/
inductive Subject
  | search (term : String)
  | activeWindow
  | act (action : Action)
  deriving DecidableEq, Repr

/-- The announcement of a subject. -/
def Subject.label : Subject → String
  | .search term => "STEP search " ++ term
  | .activeWindow => "STEP getactivewindow"
  | .act action => "STEP " ++ action.verb

/-- The subject of a step. A report announces nothing. -/
def subject? : Step → Option Subject
  | .search term _ => some (.search term)
  | .activeWindow => some .activeWindow
  | .onWindow action _ => some (.act action)
  | .onStackItem action _ => some (.act action)
  | .onStack action => some (.act action)
  | .report => none

/-- Announcements tell subjects apart: no verb of an action starts like a search, and
none is that of the active window. -/
theorem Subject.label_injective : Function.Injective Subject.label := by
  have hsearch (term text : String) (hdiverge : Diverge "STEP search ".toList text.toList) :
      "STEP search " ++ term ≠ text := by
    intro heq
    apply hdiverge.append_ne term.toList []
    rw [← String.toList_append, heq, List.append_nil]
  have hactive : Diverge "STEP search ".toList "STEP getactivewindow".toList := by decide
  have hact (action : Action) : Diverge "STEP search ".toList ("STEP " ++ action.verb).toList := by
    cases action <;> decide
  intro first second heq
  cases first with
  | search term =>
      cases second with
      | search term' => rw [(String.append_right_inj _).mp heq]
      | activeWindow => exact absurd heq (hsearch _ _ hactive)
      | act action => exact absurd heq (hsearch _ _ (hact action))
  | activeWindow =>
      cases second with
      | search term => exact absurd heq.symm (hsearch _ _ hactive)
      | activeWindow => rfl
      | act action => cases action <;> exact absurd heq (by decide)
  | act action =>
      cases second with
      | search term => exact absurd heq.symm (hsearch _ _ (hact action))
      | activeWindow => cases action <;> exact absurd heq (by decide)
      | act action' =>
          have hverb := (String.append_right_inj _).mp heq
          have hread := congrArg Action.ofVerb? hverb
          rw [Action.ofVerb?_verb, Action.ofVerb?_verb] at hread
          rw [Option.some.inj hread]

/-- Every step but a report starts with the announcement of its subject. -/
theorem stepPieces_of_subject {step : Step} {subject : Subject}
    (hsubject : subject? step = some subject) (target : Target) :
    ∃ rest, stepPieces target step =
      .code "    \x7b\n" :: .code "        output_debug(" :: .literal subject.label :: rest := by
  cases step <;> simp only [subject?, Option.some.injEq, reduceCtorEq] at hsubject
  all_goals
    rw [← hsubject]
    exact ⟨_, rfl⟩

theorem apart_filters (pieces : List Piece) :
    Apart (.code anyFilter :: pieces) (.code allFilter :: pieces) := by
  unfold anyFilter allFilter
  simp only [apart_code_append_left, apart_code_append_right]
  with_reducible exact apart_ofList (by decide +kernel)

theorem apart_search (target : Target) (term : String) :
    Apart (stepPieces target (.search term true)) (stepPieces target (.search term false)) := by
  simp only [stepPieces, searchPieces, debugLine, List.cons_append, List.nil_append,
    Bool.false_eq_true, if_true, if_false, apart_cons_iff]
  exact apart_filters _

theorem apart_ofSelector (target : Target) (action : Action) {first second : Selector}
    (hne : first ≠ second) :
    Apart (stepPieces target (Step.ofSelector action first))
      (stepPieces target (Step.ofSelector action second)) := by
  -- The announcements are the same, so what follows them has to differ.
  cases first <;> cases second
  all_goals
    simp only [Step.ofSelector, stepPieces, onWindowPieces, onStackItemPieces, onStackPieces,
      debugLine, List.cons_append, List.nil_append, apart_code_append_left,
      apart_code_append_right, apart_cons_iff]
  case all.all => exact absurd rfl hne
  case index.index m n => exact apart_decimalInt (by simpa using hne)
  case window.window id id' => exact apart_literal (by simpa using hne)
  all_goals with_reducible exact apart_ofList (by decide +kernel)

theorem subject?_eq_act {step : Step} {action : Action}
    (hsubject : subject? step = some (.act action)) :
    ∃ selector, step = Step.ofSelector action selector := by
  cases step <;>
    simp only [subject?, Option.some.injEq, Subject.act.injEq, reduceCtorEq] at hsubject
  case onWindow action' id => exact ⟨.window id, by rw [← hsubject]; rfl⟩
  case onStackItem action' position => exact ⟨.index position, by rw [← hsubject]; rfl⟩
  case onStack action' => exact ⟨.all, by rw [← hsubject]; rfl⟩

theorem subject?_eq_search {step : Step} {term : String}
    (hsubject : subject? step = some (.search term)) :
    ∃ matchAny, step = .search term matchAny := by
  cases step <;>
    simp only [subject?, Option.some.injEq, Subject.search.injEq, reduceCtorEq] at hsubject
  case search term' matchAny => exact ⟨matchAny, by rw [hsubject]⟩

theorem subject?_eq_activeWindow {step : Step}
    (hsubject : subject? step = some .activeWindow) : step = .activeWindow := by
  cases step <;> simp only [subject?, Option.some.injEq, reduceCtorEq] at hsubject
  rfl

theorem subject?_eq_none {step : Step} (hsubject : subject? step = none) : step = .report := by
  cases step <;> simp only [subject?, reduceCtorEq] at hsubject
  rfl

/-- Different steps about the same thing part after they have announced it. -/
theorem apart_of_subject_eq (target : Target) {first second : Step} {subject : Subject}
    (hfirst : subject? first = some subject) (hsecond : subject? second = some subject)
    (hne : first ≠ second) : Apart (stepPieces target first) (stepPieces target second) := by
  cases subject with
  | search term =>
      obtain ⟨matchAny, rfl⟩ := subject?_eq_search hfirst
      obtain ⟨matchAny', rfl⟩ := subject?_eq_search hsecond
      cases matchAny <;> cases matchAny'
      case true.false => exact apart_search target term
      case false.true => exact (apart_search target term).symm
      all_goals exact absurd rfl hne
  | activeWindow =>
      exact absurd (subject?_eq_activeWindow hfirst)
        (subject?_eq_activeWindow hsecond ▸ hne)
  | act action =>
      obtain ⟨selector, rfl⟩ := subject?_eq_act hfirst
      obtain ⟨selector', rfl⟩ := subject?_eq_act hsecond
      exact apart_ofSelector target action fun heq => hne (by rw [heq])

theorem apart_report (target : Target) {step : Step} {subject : Subject}
    (hstep : subject? step = some subject) :
    Apart (stepPieces target .report) (stepPieces target step) := by
  obtain ⟨rest, hrest⟩ := stepPieces_of_subject hstep target
  rw [hrest]
  simp only [stepPieces, reportPieces, apart_code_append_left, apart_cons_iff]
  with_reducible exact apart_ofList (by decide +kernel)

/-- No two different steps start the same text. -/
theorem apart_stepPieces (target : Target) {first second : Step} (hne : first ≠ second) :
    Apart (stepPieces target first) (stepPieces target second) := by
  cases hfirst : subject? first with
  | none =>
      obtain rfl := subject?_eq_none hfirst
      cases hsecond : subject? second with
      | none => exact absurd (subject?_eq_none hsecond).symm hne
      | some subject => exact apart_report target hsecond
  | some subject =>
      cases hsecond : subject? second with
      | none =>
          obtain rfl := subject?_eq_none hsecond
          exact (apart_report target hfirst).symm
      | some subject' =>
          by_cases hsubject : subject = subject'
          · subst hsubject
            exact apart_of_subject_eq target hfirst hsecond hne
          · obtain ⟨rest, hrest⟩ := stepPieces_of_subject hfirst target
            obtain ⟨rest', hrest'⟩ := stepPieces_of_subject hsecond target
            rw [hrest, hrest', apart_cons_iff, apart_cons_iff]
            exact apart_literal fun heq => hsubject (Subject.label_injective heq)

/-- No step starts like the end of a script. -/
theorem apart_epilogue (target : Target) (step : Step) :
    Apart (stepPieces target step) (epilogue target) := by
  cases hstep : subject? step with
  | none =>
      obtain rfl := subject?_eq_none hstep
      simp only [stepPieces, reportPieces, epilogue, apart_code_append_left]
      with_reducible exact apart_ofList (by decide +kernel)
  | some subject =>
      obtain ⟨rest, hrest⟩ := stepPieces_of_subject hstep target
      rw [hrest, epilogue]
      with_reducible exact apart_ofList (by decide +kernel)

/-! ## Whole scripts -/

theorem head_injective (channel : Journal.Channel) :
    Function.Injective fun marker => Journal.head marker channel := by
  intro marker marker' heq
  simpa [Journal.head] using heq

/-- Different targets of the same version start different texts. -/
theorem apart_prologue {target target' : Target} (hkde5 : target.kde5 = target'.kde5)
    (hne : target ≠ target') : Apart (prologue target) (prologue target') := by
  obtain ⟨marker, debug, kde5⟩ := target
  obtain ⟨marker', debug', kde5'⟩ := target'
  obtain rfl : kde5 = kde5' := hkde5
  by_cases hmarker : marker = marker'
  · subst hmarker
    -- The first head is the same. The functions after it differ.
    cases debug <;> cases debug'
    all_goals
      simp only [prologue, debugBody, headLiteral, List.cons_append, List.nil_append,
        Bool.false_eq_true, if_true, if_false, apart_cons_iff]
    case false.false => exact absurd rfl hne
    case true.true => exact absurd rfl hne
    all_goals with_reducible exact apart_ofList (by decide +kernel)
  · simp only [prologue, headLiteral, List.cons_append, List.nil_append, apart_cons_iff]
    exact apart_literal fun heq => hmarker (head_injective .start heq)

theorem flatMap_lexemes_scriptPieces (target : Target) (steps : List Step) :
    (scriptPieces target steps).flatMap Piece.lexemes =
      (prologue target).flatMap Piece.lexemes ++
        (steps.flatMap (fun step => (stepPieces target step).flatMap Piece.lexemes) ++
          (epilogue target).flatMap Piece.lexemes) := by
  rw [scriptPieces, List.flatMap_append, List.flatMap_append, List.append_assoc,
    List.flatMap_assoc]

/-- The text of a script determines its target and its steps. -/
theorem render_inj {target target' : Target} (hkde5 : target.kde5 = target'.kde5)
    {steps steps' : List Step} (htext : render target steps = render target' steps') :
    target = target' ∧ steps = steps' := by
  -- Texts are compared after scanning, where a literal cannot run into code.
  have hscan := congrArg (fun text => scan .code text.toList) htext
  simp only [render, scan_joinPieces (quoteless_scriptPieces _ _), Option.some.injEq,
    flatMap_lexemes_scriptPieces] at hscan
  by_cases htarget : target = target'
  · subst htarget
    refine ⟨rfl, eq_of_flatMap_append_eq ?_ (apart_epilogue target) (List.append_cancel_left hscan)⟩
    exact fun hne => apart_stepPieces target hne
  · exact absurd hscan ((apart_prologue hkde5 htarget).append_ne _ _)

/-- Different programs never share a script. Of two scripts for the same version, with
any markers and any lists of steps, the texts are equal only if the markers, the
options and the steps are. So two command lines that are compiled for one target give
the same text exactly if they give the same steps. -/
theorem render_eq_iff_and_compile (target target' : Target) (hkde5 : target.kde5 = target'.kde5) :
    (∀ steps steps', render target steps = render target' steps' ↔
      target.marker = target'.marker ∧ target.debug = target'.debug ∧ steps = steps') ∧
    ∀ {tokens tokens' : List String} {compiled compiled' : Compiled},
      compile target tokens = .ok compiled → compile target tokens' = .ok compiled' →
      (compiled.text = compiled'.text ↔ compiled.steps = compiled'.steps) := by
  refine ⟨fun steps steps' => ⟨fun htext => ?_, ?_⟩, ?_⟩
  · obtain ⟨rfl, hsteps⟩ := render_inj hkde5 htext
    exact ⟨rfl, rfl, hsteps⟩
  · rintro ⟨hmarker, hdebug, rfl⟩
    have htarget : target = target' := by
      cases target
      cases target'
      simp_all
    rw [htarget]
  · intro tokens tokens' compiled compiled' hcompile hcompile'
    obtain ⟨commands, -, rfl⟩ := compile_eq_ok_iff.mp hcompile
    obtain ⟨commands', -, rfl⟩ := compile_eq_ok_iff.mp hcompile'
    dsimp only
    exact ⟨fun htext => (render_inj rfl htext).2, fun hsteps => by rw [hsteps]⟩

/-- A position and a longer one that starts like it, and two ways to ask for the first
window. -/
theorem render_eq_iff_and_compile_positions :
    render ⟨"m", true, false⟩ [.onStackItem .close 1] ≠
        render ⟨"m", true, false⟩ [.onStackItem .close 11] ∧
      ∃ compiled compiled',
        compile ⟨"m", true, false⟩ ["windowclose", "-f", "%01"] = .ok compiled ∧
        compile ⟨"m", true, false⟩ ["windowclose"] = .ok compiled' ∧
        compiled.text = compiled'.text := by
  have hboth := render_eq_iff_and_compile ⟨"m", true, false⟩ ⟨"m", true, false⟩ rfl
  have hpadded : Command.parse ["windowclose", "-f", "%01"] = .ok [.act .close .first] :=
    parse_cons rfl parse_nil
  have hbare : Command.parse ["windowclose"] = .ok [.act .close .first] :=
    parse_cons rfl parse_nil
  have hcompile := compile_of_parse hpadded ⟨"m", true, false⟩
  have hcompile' := compile_of_parse hbare ⟨"m", true, false⟩
  refine ⟨fun htext => ?_, _, _, hcompile, hcompile', (hboth.2 hcompile hcompile').mpr rfl⟩
  exact absurd ((hboth.1 _ _).mp htext).2.2 (by decide)

end Script

end WindowScript
