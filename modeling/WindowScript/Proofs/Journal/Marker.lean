/-
# Lines of a marker

A journal line is read as a line of a marker only if it starts with the host
prefix, the marker and a space. A tagged line is read back with its channel and
its payload. Markers without a space are told apart by the first space of a line,
so that no tagged line is read under two of them.
-/

import WindowScript.Journal.Output
import WindowScript.Proofs.Text.Lines

namespace WindowScript.Journal

/-- What every line of a marker starts with. -/
def lineHead (host marker : String) : List Char := (host ++ marker ++ " ").toList

theorem readLine?_of_not_head {host marker : String} {line : List Char}
    (hline : ¬ lineHead host marker <+: line) :
    readLine? host marker (String.ofList line) = none := by
  rw [Option.eq_none_iff_forall_ne_some]
  intro found hread
  apply hline
  simp only [readLine?, withoutHost?, String.toList_ofList] at hread
  split at hread
  next text htext =>
      rw [Option.map_eq_some_iff] at htext
      obtain ⟨rest, hrest, rfl⟩ := htext
      rw [Text.after?_eq_some_iff] at hrest
      rw [decode?, String.toList_ofList] at hread
      split at hread
      · simp at hread
      next payload hpayload =>
          rw [Text.after?_eq_some_iff] at hpayload
          refine ⟨payload, ?_⟩
          rw [hrest, hpayload]
          simp [lineHead]
  next => simp at hread

/-- The empty line belongs to nobody. -/
theorem readLine?_nil (host marker : String) :
    readLine? host marker (String.ofList []) = none := by
  apply readLine?_of_not_head
  simp [lineHead]

theorem readLine?_dropReturn_of_not_head {host marker : String} {line : List Char}
    (hline : ¬ lineHead host marker <+: line) :
    readLine? host marker (String.ofList (Text.dropReturn line)) = none :=
  readLine?_of_not_head fun hhead => hline (hhead.trans (Text.dropReturn_isPrefix line))

theorem Channel.space_not_mem_tag (channel : Channel) : ' ' ∉ channel.tag.toList := by
  cases channel <;> decide

/-- The first word of a text, where the text is one word or a space ends it. -/
theorem takeWhile_ne_space {word rest : List Char} (hword : ' ' ∉ word)
    (hrest : rest.head?.all (· = ' ')) : (word ++ rest).takeWhile (· ≠ ' ') = word := by
  rw [List.takeWhile_append_of_pos]
  · cases rest with
    | nil => simp
    | cons c rest =>
        simp only [List.head?_cons, Option.all_some, decide_eq_true_eq] at hrest
        simp [hrest]
  · intro c hc
    rw [decide_eq_true_eq]
    rintro rfl
    exact hword hc

/-- Reading a tagged line gives back its channel and its payload. -/
theorem decode?_encode (marker : String) (channel : Channel) (payload : Option String) :
    decode? (encode marker channel payload) marker = some ⟨channel, payload.getD ""⟩ := by
  -- After the channel stands nothing, or a space and the payload.
  obtain ⟨rest, hrest, htext, hpayload⟩ : ∃ rest : List Char,
      rest.head?.all (· = ' ') ∧
      (encode marker channel payload).toList =
        (marker ++ " ").toList ++ (channel.tag.toList ++ rest) ∧
      String.ofList (rest.drop 1) = payload.getD "" := by
    cases payload with
    | none => exact ⟨[], rfl, by simp [encode, head], by simp⟩
    | some payload => exact ⟨' ' :: payload.toList, rfl, by simp [encode, head], by simp⟩
  have hafter : Text.after? (marker ++ " ").toList (encode marker channel payload).toList =
      some (channel.tag.toList ++ rest) :=
    Text.after?_eq_some_iff.mpr htext
  have htag := takeWhile_ne_space channel.space_not_mem_tag hrest
  simp only [decode?, hafter, htag, String.ofList_toList, Channel.ofTag?_tag,
    List.drop_length_add_append, hpayload]

theorem readLine?_encode (host marker : String) (channel : Channel) (payload : Option String) :
    readLine? host marker (host ++ encode marker channel payload) =
      some ⟨channel, payload.getD ""⟩ := by
  have hhost : withoutHost? host (host ++ encode marker channel payload) =
      some (encode marker channel payload) := by
    rw [withoutHost?, String.toList_append, Text.after?_eq_some_iff.mpr rfl]
    simp
  rw [readLine?, hhost]
  exact decode?_encode marker channel payload

theorem Channel.tag_of_ofTag? {word : String} {channel : Channel}
    (hfound : ofTag? word = some channel) : channel.tag = word := by
  simpa using List.find?_some hfound

/-- What is read as a line of a marker was written as one. -/
theorem eq_encode_of_decode? {text marker : String} {line : Line}
    (hread : decode? text marker = some line) :
    ∃ payload : Option String, payload.getD "" = line.payload ∧
      text = encode marker line.channel payload := by
  rw [decode?] at hread
  split at hread
  · simp at hread
  next rest hrest =>
      rw [Text.after?_eq_some_iff] at hrest
      dsimp only at hread
      split at hread
      · simp at hread
      next channel hchannel =>
          obtain rfl := Option.some.inj hread
          have htag := congrArg String.toList (Channel.tag_of_ofTag? hchannel)
          rw [String.toList_ofList] at htag
          have hsplit := List.takeWhile_append_dropWhile (p := (· ≠ ' ')) (l := rest)
          rw [← htag] at hsplit ⊢
          -- The channel is the whole rest, or a space ends it.
          cases hdrop : rest.dropWhile (· ≠ ' ') with
          | nil =>
              rw [hdrop, List.append_nil] at hsplit
              refine ⟨none, by simp [← hsplit], String.toList_inj.mp ?_⟩
              simp [hrest, ← hsplit, encode, head]
          | cons c payload =>
              have hspace : c = ' ' := by
                have hhead := List.head?_dropWhile_not (· ≠ ' ') rest
                rw [hdrop] at hhead
                simpa using hhead
              rw [hdrop, hspace] at hsplit
              refine ⟨some (String.ofList payload), ?_, String.toList_inj.mp ?_⟩
              · rw [← hsplit, List.drop_length_add_append]
                rfl
              · simp [hrest, ← hsplit, encode, head]

theorem decode?_eq_some_iff {text marker : String} {line : Line} :
    decode? text marker = some line ↔
      ∃ payload : Option String, payload.getD "" = line.payload ∧
        text = encode marker line.channel payload := by
  constructor
  · exact eq_encode_of_decode?
  · rintro ⟨payload, hpayload, rfl⟩
    rw [decode?_encode, hpayload]

/-- Writing and reading lines of a marker are inverse to each other, for every
marker. A text is read exactly if it is a tagged line, and the channel and the
payload are the only ones it can have been written with; an empty payload may have
been written or left out. -/
theorem encode_decode_inverse (marker : String) :
    (∀ channel payload,
      decode? (encode marker channel (some payload)) marker = some ⟨channel, payload⟩) ∧
    (∀ channel, decode? (encode marker channel none) marker = some ⟨channel, ""⟩) ∧
    (∀ text channel payload, decode? text marker = some ⟨channel, payload⟩ ↔
      text = encode marker channel (some payload) ∨
        payload = "" ∧ text = encode marker channel none) ∧
    ∀ text, decode? text marker = none ↔
      ∀ channel payload, text ≠ encode marker channel payload := by
  refine ⟨?_, ?_, ?_, ?_⟩
  · intro channel payload
    exact decode?_encode marker channel (some payload)
  · intro channel
    exact decode?_encode marker channel none
  · intro text channel payload
    rw [decode?_eq_some_iff]
    constructor
    · rintro ⟨written, hpayload, htext⟩
      cases written with
      | none => exact Or.inr ⟨hpayload.symm, htext⟩
      | some written =>
          obtain rfl : written = payload := hpayload
          exact Or.inl htext
    · rintro (htext | ⟨hempty, htext⟩)
      · exact ⟨some payload, rfl, htext⟩
      · exact ⟨none, hempty.symm, htext⟩
  · intro text
    constructor
    · rintro hnone channel payload rfl
      rw [decode?_encode] at hnone
      exact absurd hnone (by simp)
    · intro hforeign
      rw [Option.eq_none_iff_forall_ne_some]
      intro line hread
      obtain ⟨payload, -, htext⟩ := eq_encode_of_decode? hread
      exact hforeign line.channel payload htext

theorem readLine?_eq_some_iff {host marker text : String} {line : Line} :
    readLine? host marker text = some line ↔
      ∃ payload : Option String, payload.getD "" = line.payload ∧
        text = host ++ encode marker line.channel payload := by
  constructor
  · intro hread
    rw [readLine?] at hread
    split at hread
    next tagged htagged =>
        rw [withoutHost?, Option.map_eq_some_iff] at htagged
        obtain ⟨rest, hrest, rfl⟩ := htagged
        rw [Text.after?_eq_some_iff] at hrest
        obtain ⟨payload, hpayload, hencode⟩ := eq_encode_of_decode? hread
        refine ⟨payload, hpayload, String.toList_inj.mp ?_⟩
        rw [hrest, ← hencode]
        simp
    next => simp at hread
  · rintro ⟨payload, hpayload, rfl⟩
    rw [readLine?_encode, hpayload]

/-- A run has finished exactly if its last line stands in the journal. -/
theorem demultiplex_finished_iff {journal marker : String} :
    (demultiplex journal marker).finished = true ↔
      ∃ payload : Option String,
        (hostPrefix ++ encode marker .finish payload).toList ∈
          Text.lines (Terminal.strip journal.toList) := by
  simp only [demultiplex, demultiplexFrom, Output.ofLines, linesOf, List.any_eq_true,
    List.mem_filterMap, readLine?_eq_some_iff, decide_eq_true_eq]
  constructor
  · rintro ⟨line, ⟨text, htext, payload, -, heq⟩, hfinish⟩
    rw [hfinish] at heq
    exact ⟨payload, by rwa [← heq, String.toList_ofList]⟩
  · rintro ⟨payload, hmem⟩
    exact ⟨⟨.finish, payload.getD ""⟩, ⟨_, hmem, payload, rfl, String.ofList_toList⟩, rfl⟩

/-- A tagged line starts with no other marker, as long as no marker holds a
space. -/
theorem not_lineHead_encode {marker other : String} (hmarker : ' ' ∉ marker.toList)
    (hother : ' ' ∉ other.toList) (hne : other ≠ marker) (host : String) (channel : Channel)
    (payload : Option String) :
    ¬ lineHead host other <+: (host ++ encode marker channel payload).toList := by
  rintro ⟨rest, hrest⟩
  apply hne
  obtain ⟨tail, htail⟩ : ∃ tail, (encode marker channel payload).toList =
      marker.toList ++ ' ' :: tail := by
    cases payload with
    | none => exact ⟨channel.tag.toList, by simp [encode, head]⟩
    | some payload =>
        exact ⟨channel.tag.toList ++ ' ' :: payload.toList, by simp [encode, head]⟩
  have hwords : other.toList ++ ' ' :: rest = marker.toList ++ ' ' :: tail := by
    rw [String.toList_append, htail, lineHead] at hrest
    simpa using hrest
  have hword := congrArg (List.takeWhile (· ≠ ' ')) hwords
  rw [takeWhile_ne_space hother rfl, takeWhile_ne_space hmarker rfl] at hword
  exact String.toList_inj.mp hword

end WindowScript.Journal
