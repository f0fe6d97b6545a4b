/-
# Malformed bytes in the journal

The journal reader writes bytes, and not all that is logged is text. The bytes are
decoded as a whole before the journal is cut into lines, so that a character that is cut
off at the end of one line might reach into the next. It does not: a line feed is an
ASCII byte, and decoding starts anew behind it. What is read of a run is therefore
decided by the lines whose bytes start like its own, each decoded by itself.

Nothing is assumed about the other lines, except that they hold no escape character. A
marker with a replacement character is left out, for malformed bytes would be taken for
a part of it.
-/

import WindowScript.Helper.Reply
import WindowScript.Proofs.Journal.Insertion
import WindowScript.Proofs.Text.Utf8

namespace WindowScript.Journal

open Text

/-- The text of the bytes of a line. -/
def decodedLine (bytes : List UInt8) : String := String.ofList (Utf8.decode bytes)

/-- The bytes of complete lines. -/
def bytesOfLines (lines : List (List UInt8)) : List UInt8 := lines.flatMap (· ++ [0x0A])

/-- Whether the bytes of a line start like the lines of a marker. -/
def isMarked (marker : String) (bytes : List UInt8) : Bool :=
  (Utf8.encode ("js: " ++ marker ++ " ").toList).isPrefixOf bytes

/-! ## Lines of text -/

/-- Complete lines without escape characters are read one by one. -/
theorem linesOf_textOfLines {lines : List String} (hlines : ∀ line ∈ lines, Plain line)
    (marker : String) :
    linesOf hostPrefix marker (textOfLines lines) = lines.filterMap fun line =>
      readLine? hostPrefix marker (String.ofList (dropReturn line.toList)) := by
  have hesc : Terminal.esc ∉ (textOfLines lines).toList :=
    (written_textOfLines lines).esc_not_mem fun line hline => (hlines line hline).no_escape
  rw [linesOf, Terminal.strip_of_not_mem hesc]
  induction lines with
  | nil =>
      have hlast : Text.lines (textOfLines []).toList = [[]] := rfl
      simp only [hlast, List.filterMap_cons, readLine?_nil, List.filterMap_nil]
  | cons line lines ih =>
      have hline : Plain line := hlines line List.mem_cons_self
      have hrest : Terminal.esc ∉ (textOfLines lines).toList := fun hmem =>
        hesc (by rw [toList_textOfLines_cons]; simp [hmem])
      have hothers : ∀ other ∈ lines, Plain other := fun other hother =>
        hlines other (List.mem_cons_of_mem line hother)
      rw [toList_textOfLines_cons, lines_cons_feed hline.no_feed, List.filterMap_cons,
        List.filterMap_cons, ih hothers hrest]

/-- Lines that do not start like the lines of a marker may be left out. -/
theorem linesOf_filter {lines : List String} (hlines : ∀ line ∈ lines, Plain line)
    (marker : String) :
    linesOf hostPrefix marker (textOfLines (lines.filter fun line =>
        (lineHead hostPrefix marker).isPrefixOf line.toList)) =
      linesOf hostPrefix marker (textOfLines lines) := by
  rw [linesOf_textOfLines hlines, linesOf_textOfLines fun line hline =>
    hlines line (List.mem_of_mem_filter hline), List.filterMap_filter]
  congr 1
  funext line
  split
  · rfl
  next hhead =>
      rw [List.isPrefixOf_iff_prefix] at hhead
      exact (readLine?_dropReturn_of_not_head hhead).symm

/-! ## Lines of bytes -/

theorem decode_append_feed (before after : List UInt8) :
    Utf8.decode (before ++ 0x0A :: after) = Utf8.decode before ++ '\n' :: Utf8.decode after :=
  Utf8.decode_append_ascii (by decide) before after

/-- Complete lines are decoded one by one. -/
theorem decode_bytesOfLines (lines : List (List UInt8)) :
    Utf8.decode (bytesOfLines lines) = (textOfLines (lines.map decodedLine)).toList := by
  induction lines with
  | nil => exact Utf8.decode_nil
  | cons line lines ih =>
      have hbytes : bytesOfLines (line :: lines) = line ++ 0x0A :: bytesOfLines lines := by
        simp [bytesOfLines]
      rw [hbytes, decode_append_feed, ih, List.map_cons, toList_textOfLines_cons, decodedLine,
        String.toList_ofList]

theorem plain_decodedLine {bytes : List UInt8} (hfeed : 0x0A ∉ bytes) (hesc : 0x1B ∉ bytes) :
    Plain (decodedLine bytes) where
  no_feed hmem := hfeed (Utf8.mem_of_mem_decode (c := '\n') (by decide)
    (by simpa [decodedLine] using hmem))
  no_escape hmem := hesc (Utf8.mem_of_mem_decode (c := Terminal.esc) (by decide)
    (by simpa [decodedLine] using hmem))

theorem replacement_not_mem_lineHead {marker : String}
    (hmarker : Utf8.replacement ∉ marker.toList) :
    Utf8.replacement ∉ lineHead hostPrefix marker := by
  have hfixed : Utf8.replacement ∉ (hostPrefix ++ " ").toList := by decide
  simpa [lineHead, hmarker] using hfixed

theorem isMarked_eq {marker : String} (hmarker : Utf8.replacement ∉ marker.toList)
    (bytes : List UInt8) :
    isMarked marker bytes =
      (lineHead hostPrefix marker).isPrefixOf (decodedLine bytes).toList := by
  rw [Bool.eq_iff_iff, isMarked, List.isPrefixOf_iff_prefix, List.isPrefixOf_iff_prefix,
    decodedLine, String.toList_ofList,
    Utf8.prefix_decode_iff (replacement_not_mem_lineHead hmarker)]
  rfl

/-- Malformed bytes stay on their line. What a program writes is the text before a line
feed and the text after it, each decoded by itself, and text that was encoded comes out
as it was. So what is read of a run in a journal of complete lines is what is read in
the lines that start like its own, decoded one by one. -/
theorem bytes_read_by_lines (reply : Helper.Reply) :
    (∀ before after, reply.stdout = before ++ 0x0A :: after →
      reply.result.stdout =
        String.ofList (Utf8.decode before) ++ "\n" ++ String.ofList (Utf8.decode after)) ∧
    (∀ text : String, reply.stdout = text.toUTF8.data.toList → reply.result.stdout = text) ∧
    ∀ (marker : String) (lines : List (List UInt8)), Utf8.replacement ∉ marker.toList →
      (∀ line ∈ lines, 0x0A ∉ line ∧ 0x1B ∉ line) → reply.stdout = bytesOfLines lines →
        demultiplex reply.result.stdout marker =
          demultiplex (textOfLines ((lines.filter (isMarked marker)).map decodedLine)) marker := by
  refine ⟨fun before after hstdout => ?_, fun text hstdout => ?_,
    fun marker lines hmarker hlines hstdout => ?_⟩
  · rw [Helper.Reply.result, hstdout, decode_append_feed]
    apply String.toList_inj.mp
    simp
  · rw [Helper.Reply.result, hstdout, Utf8.decode_toUTF8, String.ofList_toList]
  · have htext : reply.result.stdout = textOfLines (lines.map decodedLine) := by
      rw [Helper.Reply.result, hstdout, decode_bytesOfLines, String.ofList_toList]
    have hplain : ∀ line ∈ lines.map decodedLine, Plain line := by
      intro line hline
      obtain ⟨bytes, hbytes, rfl⟩ := List.mem_map.mp hline
      exact plain_decodedLine (hlines bytes hbytes).1 (hlines bytes hbytes).2
    have hfilter : (lines.filter (isMarked marker)).map decodedLine =
        (lines.map decodedLine).filter fun line =>
          (lineHead hostPrefix marker).isPrefixOf line.toList := by
      rw [List.filter_map]
      congr 2
      funext bytes
      exact isMarked_eq hmarker bytes
    rw [htext, hfilter, demultiplex, demultiplexFrom, demultiplex, demultiplexFrom,
      linesOf_filter hplain]

/-- A line that ends within a character, a result that does so, and a line that only
looks like a result behind an overlong form. -/
def brokenLines : List (List UInt8) :=
  [[0xE2, 0x82], Utf8.encode "js: m RESULT ".toList ++ [0xC3],
    [0xC1, 0xAA] ++ Utf8.encode "js: m RESULT b".toList, Utf8.encode "js: m FINISH".toList]

theorem bytes_read_by_lines_broken :
    demultiplex ({ stdout := bytesOfLines brokenLines } : Helper.Reply).result.stdout "m" =
      ⟨false, true, ["\uFFFD"], [], []⟩ := by
  obtain ⟨-, -, hread⟩ := bytes_read_by_lines { stdout := bytesOfLines brokenLines }
  rw [hread "m" brokenLines (by decide) (by decide +kernel) rfl]
  decide +kernel

end WindowScript.Journal
