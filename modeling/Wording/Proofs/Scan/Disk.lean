import Wording.Proofs.Scan.Batch
import Wording.Proofs.Text.Utf8
import Wording.Proofs.Tokens.Pattern

/-! # Files and texts in memory

A file that holds the UTF-8 of a text is reported on as the text is under the name of the file, once the ends of its
lines are line feeds; only the place differs. A file that holds no UTF-8 has no report, and leaves a row with its error
in every batch. Line ends are unified by one replacement, so that what is known of such replacements gives that text
(`unifyLineEnds_eq`), and reading back what was written is the law of the encoding.
-/

set_option autoImplicit false

namespace Wording

namespace Tokens.Pattern

/-- The pattern of a piece that leaves another one in its place. -/
def exchange (old new : Text) : Pattern := fun _ t => (Text.dropBeginning? old t).map (⟨new, ·⟩)

theorem exchange_steady {old : Text} (hold : old ≠ []) (new : Text) : (exchange old new).Steady where
  ignores _ _ := rfl
  takes t hit h := by
    obtain ⟨rest, hrest, rfl⟩ := Option.map_eq_some_iff.mp h
    exact ⟨old, hold, Text.dropBeginning?_eq_some_iff.mp hrest⟩

end Tokens.Pattern

namespace Text

open Tokens.Pattern

/-- A text with a line feed for every carriage return with a line feed behind it, and for every one that is then
left. -/
def withLineFeeds (t : Text) : Text :=
  (exchange ['\r'] ['\n']).replace ((exchange ['\r', '\n'] ['\n']).replace t)

/-- A piece of one character is not exchanged where another character stands. -/
theorem exchange_eq_none {c d : Char} {old new cs : Text} (h : c ≠ d) :
    exchange (c :: old) new none (d :: cs) = none := by
  rw [exchange, dropBeginning?, if_neg h, Option.map_none]

/-- The ends of lines are unified by line feeds. -/
theorem unifyLineEnds_eq (t : Text) : unifyLineEnds t = withLineFeeds t := by
  have hpair := exchange_steady (List.cons_ne_nil '\r' ['\n']) ['\n']
  have hreturn := exchange_steady (List.cons_ne_nil '\r' []) ['\n']
  unfold withLineFeeds
  fun_induction unifyLineEnds t with
  | case1 => rfl
  | case2 cs ih =>
    have hhit : exchange ['\r', '\n'] ['\n'] none ('\r' :: '\n' :: cs) = some ⟨['\n'], cs⟩ := rfl
    rw [ih, hpair.replace_of_hit hhit, List.cons_append, List.nil_append,
      hreturn.replace_of_miss (exchange_eq_none (by decide))]
  | case3 cs hnext ih =>
    have hmiss : exchange ['\r', '\n'] ['\n'] none ('\r' :: cs) = none := by
      cases cs with
      | nil => rfl
      | cons c rest =>
        have hc : '\n' ≠ c := fun h => hnext rest (h ▸ rfl)
        simp only [exchange, dropBeginning?, if_pos, if_neg hc, Option.map_none]
    have hhit : ∀ later, exchange ['\r'] ['\n'] none ('\r' :: later) = some ⟨['\n'], later⟩ := fun _ => rfl
    rw [ih, hpair.replace_of_miss hmiss, hreturn.replace_of_hit (hhit _), List.cons_append, List.nil_append]
  | case4 c cs hc hreturns ih =>
    have hother : '\r' ≠ c := fun h => hreturns h.symm
    rw [ih, hpair.replace_of_miss (exchange_eq_none hother), hreturn.replace_of_miss (exchange_eq_none hother)]

end Text

/-- A file with the UTF-8 of a text is read as the text, with line feeds for the ends of its lines. -/
theorem Source.read_ofPath {disk : Disk} {path : Text} {bytes : List UInt8} {t : Text}
    (hfile : disk.at? (Path.plain path) = .ok (.file bytes)) (ht : bytes.toByteArray = t.utf8Encode) :
    (Source.ofPath path).read disk = .ok (Text.withLineFeeds t) := by
  simp only [Source.read, Source.ofPath, Disk.readText, hfile, Text.decodeUtf8_eq_ok_iff.mpr ht, Text.unifyLineEnds_eq]
  rfl

theorem Source.exists_read_ofPath_error {disk : Disk} {path : Text} {bytes : List UInt8}
    (hfile : disk.at? (Path.plain path) = .ok (.file bytes)) (hinvalid : ¬ bytes.toByteArray.IsValidUTF8) :
    ∃ fault, Text.decodeUtf8 bytes = .error fault ∧
      (Source.ofPath path).read disk = .error (.file (.notUtf8 fault)) := by
  obtain ⟨fault, hfault⟩ := Text.exists_decodeUtf8_eq_error hinvalid
  refine ⟨fault, hfault, ?_⟩
  simp only [Source.read, Source.ofPath, Disk.readText, hfile, hfault]
  rfl

namespace Scanner

variable (s : Scanner) (around : Surroundings)

/-- The report on a text that was read is that on the text in memory, but for the place. -/
theorem scanSource_eq_scanText_of_read {s : Scanner} {around : Surroundings} {source : Source} {content : Text}
    (h : source.read around.disk = .ok content) :
    s.scanSource around source =
      (s.scanText around source.name content).map fun r => { r with path := source.displayPath } := by
  have hscan : s.scanSource around source = s.scanContent around.now source.name source.displayPath content := by
    rw [scanSource, h]
    rfl
  have htext : s.scanText around source.name content = s.scanContent around.now source.name source.name content := rfl
  rw [hscan, htext]
  unfold scanContent
  split
  · rfl
  · dsimp only
    split
    · rfl
    · split <;> rfl

/-- A file with the UTF-8 of a text has the same report as the text under its name, or the same error, with line feeds
for the ends of lines; only the place is that of the file. A file that is no UTF-8 has no report but the error of its
first bytes that cannot be read. In every batch it leaves a row with this error and nothing counted, and the batch lists
the row among its failures. -/
theorem scanSource_ofPath (path : Text) (bytes : List UInt8)
    (hfile : around.disk.at? (Path.plain path) = .ok (.file bytes)) :
    (∀ t : Text, bytes.toByteArray = t.utf8Encode →
      s.scanSource around (Source.ofPath path) =
        (s.scanText around (Path.name path) (Text.withLineFeeds t)).map fun r =>
          { r with path := Path.plain path }) ∧
      (¬ bytes.toByteArray.IsValidUTF8 → ∃ fault, Text.decodeUtf8 bytes = .error fault ∧
        s.scanSource around (Source.ofPath path) = .error (.file (.notUtf8 fault)) ∧
        ∀ (sources : List Source) (i : Nat), sources[i]? = some (Source.ofPath path) →
          ∃ row, (s.scanBatch around never sources).1.files[i]? = some row ∧
            row = ⟨Path.plain path, Path.name path, "text".toList, 0, 0, .binary (.zero false), 0, [], around.now,
              fault.message⟩ ∧
            row.hasError = true ∧ row ∈ (s.scanBatch around never sources).1.failedFiles) := by
  constructor
  · intro t ht
    exact scanSource_eq_scanText_of_read (Source.read_ofPath hfile ht)
  · intro hinvalid
    obtain ⟨fault, hfault, hread⟩ := Source.exists_read_ofPath_error hfile hinvalid
    have hscan : s.scanSource around (Source.ofPath path) = .error (.file (.notUtf8 fault)) := by
      rw [scanSource, hread]
      rfl
    refine ⟨fault, hfault, hscan, ?_⟩
    intro sources i hi
    have hrow : (s.scanRow around (Source.ofPath path)).1 =
        failedReport around.now (Source.ofPath path) (.file (.notUtf8 fault)) := by
      rw [scanRow, hscan]
    have hfiles : (s.scanBatch around never sources).1.files[i]? =
        some (failedReport around.now (Source.ofPath path) (.file (.notUtf8 fault))) := by
      rw [scanBatch_never_files, List.getElem?_map, hi, Option.map_some, hrow]
    have herror : (failedReport around.now (Source.ofPath path) (.file (.notUtf8 fault))).hasError = true :=
      decide_eq_true (FileError.message_ne_nil (.notUtf8 fault))
    exact ⟨_, hfiles, rfl, herror, List.mem_filter.mpr ⟨List.mem_of_getElem? hfiles, herror⟩⟩

/-- A folder with a file whose lines end in two ways, and with a file that is no UTF-8. -/
def unevenFolder : Tree :=
  .folder
    [("a.js".toList, .file (Text.encodeUtf8 "let man\r\nx\r".toList)), ("b.js".toList, .file [0x61, 0xFF])]

/-- The first file of an uneven folder is scanned with line feeds; the second one leaves a row with its error. -/
theorem scanSource_ofPath_uneven :
    ((new Settings.builtin Catalog.builtin 100 []).scanSource ⟨⟨unevenFolder, []⟩, .whole 0⟩ (.ofPath "a.js".toList) =
      ((new Settings.builtin Catalog.builtin 100 []).scanText ⟨⟨unevenFolder, []⟩, .whole 0⟩ "a.js".toList
        "let man\nx\n".toList).map fun r => { r with path := "a.js".toList }) ∧
    ∃ row, ((new Settings.builtin Catalog.builtin 100 []).scanBatch ⟨⟨unevenFolder, []⟩, .whole 0⟩ never
        [.ofPath "a.js".toList, .ofPath "b.js".toList]).1.files[1]? = some row ∧ row.hasError = true ∧
      row.error = "'utf-8' codec can't decode byte 0xff in position 1: invalid start byte".toList := by
  constructor
  · exact (scanSource_ofPath _ ⟨⟨unevenFolder, []⟩, .whole 0⟩ "a.js".toList _ rfl).1 "let man\r\nx\r".toList
      (Text.decodeUtf8_eq_ok_iff.mp (by decide +kernel))
  · have hrefused : Text.decodeUtf8 [0x61, 0xFF] = .error ⟨0xFF, 1, 1, .invalidStart⟩ := by
      decide +kernel
    have hinvalid : ¬ [0x61, 0xFF].toByteArray.IsValidUTF8 := by
      rintro ⟨t, ht⟩
      rw [Text.decodeUtf8_eq_ok_iff.mpr ht] at hrefused
      cases hrefused
    obtain ⟨fault, hfault, -, hrow⟩ := (scanSource_ofPath (new Settings.builtin Catalog.builtin 100 [])
      ⟨⟨unevenFolder, []⟩, .whole 0⟩ "b.js".toList _ rfl).2 hinvalid
    obtain ⟨row, hfiles, rfl, herror, -⟩ := hrow [.ofPath "a.js".toList, .ofPath "b.js".toList] 1 rfl
    rw [hrefused] at hfault
    cases hfault
    exact ⟨_, hfiles, herror, by decide +kernel⟩

end Scanner

end Wording
