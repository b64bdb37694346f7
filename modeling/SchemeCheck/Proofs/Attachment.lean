import SchemeCheck.Proofs.Report
import SchemeCheck.Proofs.Text.Breaks

/-!
# SchemeCheck.Proofs.Attachment

The scheme below a report.  What stands under the caption is the scheme by rows
(`text_eq_append_rows`), while the interpreter counts it by lines.  So the n-th
row shown is the line that a diagnostic calls line n only as long as no line
holds a character that ends a row: `attached_lines_iff`.
-/

namespace SchemeCheck

namespace Diagnostic

/-- What stands above an attached scheme. -/
def caption : Text := Text.spaces 4 ++ "Test scheme:\n".toList

/-- Lines as they are shown below the caption. -/
def shown (lines : List Text) : Text :=
  lines.flatMap (Text.spaces 8 ++ ·)

/-- Every line that is shown is one line more of the message. -/
theorem shown_closed (bodies : List Text) :
    shown (bodies.map (· ++ ['\n'])) =
      Text.closeLines '\n' (bodies.map (Text.spaces 8 ++ ·)) := by
  simp only [shown, Text.closeLines, List.flatMap_map, List.append_assoc]

/-- What is shown tells the lines apart. -/
theorem shown_closed_inj {bodies others : List Text} (hbodies : ∀ body ∈ bodies, '\n' ∉ body)
    (hothers : ∀ body ∈ others, '\n' ∉ body) :
    shown (bodies.map (· ++ ['\n'])) = shown (others.map (· ++ ['\n'])) ↔ bodies = others := by
  have hspaces : '\n' ∉ Text.spaces 8 := by decide
  have hindented {texts : List Text} (h : ∀ body ∈ texts, '\n' ∉ body) :
      ∀ row ∈ texts.map (Text.spaces 8 ++ ·), '\n' ∉ row := by
    intro row hrow
    obtain ⟨body, hbody, rfl⟩ := List.mem_map.mp hrow
    exact List.not_mem_append hspaces (h body hbody)
  refine ⟨fun h => ?_, fun h => by rw [h]⟩
  rw [shown_closed, shown_closed] at h
  have hmap := Text.closeLines_inj (hindented hbodies) (hindented hothers) h
  exact (List.map_inj_right fun _ _ => List.append_cancel_left).mp hmap

/-- The scheme is shown by rows. -/
theorem schemeText_eq {scheme : Text} (h : scheme ≠ []) {context : Context}
    (hscheme : context.scheme = some scheme) :
    schemeText (Text.spaces 8) context =
      caption ++ shown ((Text.rows scheme).map (· ++ ['\n'])) := by
  have hrows : (Text.rows scheme).map (Text.spaces 8 ++ ·) ≠ [] := by
    simpa using Text.rows_ne_nil h
  have hjoined := Text.joinWith_append_cons hrows '\n' []
  rw [List.append_nil] at hjoined
  rw [shown_closed, ← hjoined, schemeText, hscheme]
  simp only [List.isEmpty_iff, h, if_false, caption, List.append_assoc]

/-- It stands at the end. -/
theorem trailer_eq (filename : Option Text) {scheme : Text} (h : scheme ≠ []) :
    trailer { filename := filename, scheme := some scheme } =
      trailer { filename := filename, scheme := some [] } ++
        (caption ++ shown ((Text.rows scheme).map (· ++ ['\n']))) := by
  have hempty : schemeText (Text.spaces 8) { filename := filename, scheme := some [] } = [] := rfl
  have hscheme : schemeText (Text.spaces 8) { filename := filename, scheme := some scheme } =
      caption ++ shown ((Text.rows scheme).map (· ++ ['\n'])) := schemeText_eq h rfl
  rw [trailer, trailer, hempty, hscheme, List.append_nil, List.cons_append]
  rfl

end Diagnostic

namespace Report

open Diagnostic

/-- Below everything else a report shows the rows of its scheme. -/
theorem text_eq_append_rows (report : Report) (filename : Option Text) {scheme : Text}
    (h : scheme ≠ []) :
    report.text (some scheme) filename =
      report.text (some []) filename ++
        Capture.ofText (caption ++ shown ((Text.rows scheme).map (· ++ ['\n']))) := by
  simp only [text, Option.isNone_some, Bool.false_and, Bool.false_eq_true, if_false]
  rw [trailer_eq filename h, Capture.ofText_append, List.append_assoc, List.append_assoc,
    List.append_assoc]

/-- **Attachment**: the scheme below a report has the lines that the interpreter saw exactly
if none of them holds a character that ends a row. -/
theorem attached_lines_iff (report : Report) (filename : Option Text) {scheme : Text}
    (h : scheme ≠ []) :
    report.text (some scheme) filename =
        report.text (some []) filename ++ Capture.ofText (caption ++ shown (Text.lines scheme)) ↔
      ∀ body ∈ Text.lineBodies scheme, Text.Unbroken body := by
  have hrows : ∀ row ∈ Text.rows scheme, '\n' ∉ row :=
    fun row hrow hmem => absurd (Text.unbroken_of_mem_rows row hrow '\n' hmem) (by decide)
  have hlines : ∀ body ∈ Text.lineBodies scheme, '\n' ∉ body :=
    fun _ => Text.not_mem_of_mem_cutLines
  rw [text_eq_append_rows report filename h, List.append_cancel_left_eq, Capture.ofText_inj,
    List.append_cancel_left_eq, Text.lines,
    shown_closed_inj hrows hlines, Text.rows_eq_lineBodies_iff]

/-- A scheme with other line ends, an empty line and an open last line. -/
theorem attached_lines_iff_returns :
    let report : Report := { failures := [Capture.ofText "a\n b".toList] }
    let scheme : Text := "--stdout\r\n\n é\r".toList
    scheme ≠ [] ∧ (∀ body ∈ Text.lineBodies scheme, Text.Unbroken body) ∧
      report.text (some scheme) none =
        report.text (some []) none ++
          Capture.ofText
            "    Test scheme:\n        --stdout\n        \n         é\n".toList := by
  intro report scheme
  have hscheme : scheme ≠ [] := by decide
  have hunbroken : ∀ body ∈ Text.lineBodies scheme, Text.Unbroken body := by decide +kernel
  refine ⟨hscheme, hunbroken, ?_⟩
  rw [(attached_lines_iff report none hscheme).mpr hunbroken]
  decide +kernel

/-- A form feed in a line shows one line as two. -/
theorem not_attached_lines :
    ¬ ∀ (report : Report) (filename : Option Text) (scheme : Text), scheme ≠ [] →
      report.text (some scheme) filename =
        report.text (some []) filename ++
          Capture.ofText (caption ++ shown (Text.lines scheme)) := by
  intro h
  have hshown := h { failures := [] } none "--stdout\na\x0cb\n".toList (by decide)
  exact absurd hshown (by decide +kernel)

end Report

end SchemeCheck
