/-
# What stripping keeps

A text may be made of plain parts, without an escape character, and of complete
sequences between them. A plain part may look like the rest of a sequence, and a system
command may hold whole control sequences and line feeds. Stripping such a text gives the
plain parts, one after the other: it goes on exactly where a sequence ends.

A diagnostic is such a text, if its message is plain. Without its colours it is the time
of day, the name of its source and the message.
-/

import WindowScript.Proofs.Calendar.Iso
import WindowScript.Proofs.Terminal.Residue
import WindowScript.Terminal.Diagnostic

namespace WindowScript.Terminal

open WindowScript.Calendar

/-! ## Texts of plain parts and sequences -/

/-- A complete sequence and the plain text behind it. -/
structure Segment where
  sequence : List Char
  complete : Sequence sequence
  plain : List Char
  unescaped : esc ∉ plain

/-- A segment as it stands in a text. -/
def Segment.text (segment : Segment) : List Char := esc :: (segment.sequence ++ segment.plain)

theorem Segment.strip_append (segment : Segment) (rest : List Char) :
    strip (segment.text ++ rest) = segment.plain ++ strip rest := by
  rw [text, List.cons_append, List.append_assoc, strip_sequence segment.complete,
    strip_append_of_not_mem segment.unescaped]

/-- One segment after the other, stripping keeps what is plain. -/
theorem strip_segments (segments : List Segment) :
    strip (segments.flatMap Segment.text) = segments.flatMap Segment.plain := by
  induction segments with
  | nil => exact strip_nil
  | cons segment segments ih =>
      rw [List.flatMap_cons, List.flatMap_cons, segment.strip_append, ih]

/-! ## Diagnostics -/

theorem esc_not_mem_field (width : Nat) (get : Moment → Nat) (instant : Option Instant) :
    esc ∉ (field width get instant).toList := by
  have hnone : esc ∉ noField.toList := by decide
  cases instant with
  | none => exact hnone
  | some instant => exact Number.not_mem_padded (by decide) width _

theorem esc_not_mem_timestamp (instant : Option Instant) :
    esc ∉ (timestamp instant).toList := by
  have hcolon : esc ∉ ":".toList := by decide
  have hdot : esc ∉ ".".toList := by decide
  simp only [timestamp, clockText, String.toList_append, List.mem_append,
    esc_not_mem_field, hcolon, hdot, or_self, not_false_eq_true]

/-- The name of a source, without colours. -/
def Source.name : Source → String
  | .tool => "[KDOTOOL]"
  | .compositor => "[KWIN]"

/-- The style of a source. -/
def Source.style : Source → Style
  | .tool => .magenta
  | .compositor => .cyan

theorem Source.label_eq (source : Source) : source.label = source.style.apply source.name := by
  cases source <;> rfl

theorem Source.esc_not_mem_name (source : Source) : esc ∉ source.name.toList := by
  cases source <;> decide

theorem Style.strip_code_append (style : Style) (rest : List Char) :
    strip (style.code.toList ++ rest) = strip rest := by
  have hcode : style.code.toList = esc :: style.code.toList.tail := by
    cases style <;> rfl
  have hafter : afterSequence? style.code.toList.tail = some [] := by
    cases style <;> rfl
  obtain ⟨seq, hseq, htail⟩ := afterSequence?_eq_some_iff.mp hafter
  rw [List.append_nil] at htail
  rw [hcode, htail, List.cons_append, strip_sequence hseq]

/-- A style leaves no trace of itself. -/
theorem Style.strip_apply_append (style : Style) {text : String} (htext : esc ∉ text.toList)
    (rest : List Char) :
    strip ((style.apply text).toList ++ rest) = text.toList ++ strip rest := by
  rw [apply, String.toList_append, String.toList_append, List.append_assoc, List.append_assoc,
    style.strip_code_append, strip_append_of_not_mem htext, Style.reset.strip_code_append]

theorem stripText_diagnostic (instant : Instant) (source : Source) {message : String}
    (hmessage : esc ∉ message.toList) :
    stripText (diagnostic (some instant) source message) =
      timestamp (some instant) ++ " " ++ source.name ++ " " ++ message := by
  have hspace : esc ∉ " ".toList := by decide
  rw [← String.toList_inj, toList_stripText, diagnostic, timeLabel, source.label_eq]
  simp only [String.toList_append, List.append_assoc]
  rw [Style.dim.strip_apply_append (esc_not_mem_timestamp (some instant)),
    strip_append_of_not_mem hspace, source.style.strip_apply_append source.esc_not_mem_name,
    strip_append_of_not_mem hspace, strip_of_not_mem hmessage]

/-- Of a text of plain parts with complete sequences between them, stripping keeps the
plain parts and nothing else. So a diagnostic with a plain message becomes the time of
day, the name of its source and the message, and the time is that of the instant. -/
theorem stripText_keeps_plain :
    (∀ (first : List Char) (segments : List Segment), esc ∉ first →
      stripText (String.ofList (first ++ segments.flatMap Segment.text)) =
        String.ofList (first ++ segments.flatMap Segment.plain)) ∧
    ∀ (instant : Instant) (source : Source) (message : String), esc ∉ message.toList →
      ∃ time : String,
        stripText (diagnostic (some instant) source message) =
          time ++ " " ++ source.name ++ " " ++ message ∧
        ∀ n, TimeOfDay time.toList n ↔ n = instant.millis % 86400000 := by
  constructor
  · intro first segments hfirst
    rw [stripText, String.toList_ofList, strip_append_of_not_mem hfirst, strip_segments]
  · intro instant source message hmessage
    exact ⟨timestamp (some instant), stripText_diagnostic instant source hmessage,
      fun n => timeOfDay_timestamp_iff⟩

/-- A control sequence before a text that could go on as one, and a system command that
holds a control sequence and a line feed. -/
def titled : List Segment :=
  [⟨"[?25l".toList, .control ['?', '2', '5'] (List.all_eq_true.mp (by decide)) (by decide),
    "0m\x07\n".toList, by decide⟩,
   ⟨"]0;\x1b[m\n\x07".toList, .system (by decide : bell ∉ "0;\x1b[m\n".toList), "b".toList,
    by decide⟩]

theorem stripText_keeps_plain_titled :
    esc ∉ "a[1".toList ∧
    stripText "a[1\x1b[?25l0m\x07\n\x1b]0;\x1b[m\n\x07b" = "a[10m\x07\nb" ∧
    esc ∉ "[31m\x07".toList ∧
    ∃ time : String,
      stripText (diagnostic (some ⟨-1, by decide⟩) .compositor "[31m\x07") =
        time ++ " " ++ "[KWIN]" ++ " " ++ "[31m\x07" ∧
      TimeOfDay time.toList 86399999 := by
  obtain ⟨hplain, hdiagnostic⟩ := stripText_keeps_plain
  have hstrip := hplain "a[1".toList titled (by decide)
  obtain ⟨time, hline, htime⟩ := hdiagnostic ⟨-1, by decide⟩ .compositor "[31m\x07" (by decide)
  exact ⟨by decide, hstrip, by decide, time, hline, (htime _).mpr (by decide)⟩

end WindowScript.Terminal
