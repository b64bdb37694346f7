import SchemeCheck.Proofs.Scheme.Grammar

/-!
# SchemeCheck.Proofs.Scheme.Segmentation

What segmentation makes of a text, said of the text as a whole.  The lines one
after another are the text with its last line closed and every pair of a
carriage return and a line feed replaced by the line feed, and each line has
lost at most one carriage return (`Text.exists_rows`).  With a limit the answer
is the same unless a line is too long, and then the first such line is blamed:
`linesWithin_closed`.
-/

namespace SchemeCheck

namespace Text

/-- A line is the given row of a text, or the row without the carriage return
before its line feed. -/
def LineOf (row line : Text) : Prop :=
  line = row ∨ ∃ body, row = body ++ ['\r', '\n'] ∧ line = body ++ ['\n']

/-- A body without one carriage return at its end makes the line of its row. -/
theorem lineOf_chomp (body : Text) : LineOf (body ++ ['\n']) (chomp '\r' body ++ ['\n']) := by
  by_cases hlast : body.getLast? = some '\r'
  · obtain ⟨front, rfl⟩ := List.getLast?_eq_some_iff.mp hlast
    rw [chomp_append_singleton]
    exact .inr ⟨front, by simp, rfl⟩
  · rw [chomp_eq_self_iff.mpr hlast]
    exact .inl rfl

/-- **Rows**: the text with its last line closed is made of rows, one for each
line, which differ from the lines by at most one carriage return. -/
theorem exists_rows (text : Text) :
    ∃ rows, rows.flatten = closed '\n' text ∧ List.Forall₂ LineOf rows (lines text) := by
  unfold lines lineBodies
  induction text using line_induction '\n' with
  | last body hbody =>
      by_cases hnil : body = []
      · subst hnil
        exact ⟨[], rfl, .nil⟩
      · have hopen : body.getLast? ≠ some '\n' := fun hlast =>
          hbody (List.mem_of_getLast? hlast)
        rw [cutLines_of_not_mem hbody, if_neg hnil]
        exact ⟨[body ++ ['\n']], by simp [closed, hnil, hopen], .cons (lineOf_chomp body) .nil⟩
  | line body rest hbody ih =>
      obtain ⟨rows, hrows, hlines⟩ := ih
      rw [cutLines_append hbody, List.map_cons]
      refine ⟨(body ++ ['\n']) :: rows, ?_, .cons (lineOf_chomp body) hlines⟩
      rw [List.flatten_cons, hrows, closed_append, List.append_assoc, List.singleton_append]

end Text

/-- What is the first of some values is, seen through a function, the first of
their images. -/
theorem FirstWhere.map {α β : Type} {p : β → Prop} {f : α → β} {xs before : List α} {x : α}
    (h : FirstWhere (p ∘ f) xs before x) : FirstWhere p (xs.map f) (before.map f) (f x) where
  stands := by simpa using h.stands.map f
  holds := h.holds
  earlier := List.forall_mem_map.mpr h.earlier

namespace Scheme

/-- A line has one character more than its body. -/
theorem forall_lines_iff {limit : Int} {text : Text} :
    (∀ line ∈ Text.lines text, (line.dropLast.length : Int) ≤ limit) ↔
      ∀ body ∈ Text.lineBodies text, (body.length : Int) ≤ limit := by
  simp [Text.lines]

/-- The first line that is too long is blamed. -/
theorem linesWithin_of_overlong {limit : Int} {text : Text}
    (h : ∃ line ∈ Text.lines text, limit < line.dropLast.length) (filename : Option Text) :
    ∃ before line, ∃ fault : LineFault,
      FirstWhere (fun line : Text => limit < line.dropLast.length) (Text.lines text) before line ∧
      linesWithin (some limit) filename text = .error fault ∧
      fault.fault = .overlong limit ∧ fault.line = line.dropLast.take shownLineSize ∧
      fault.context.lineNum = some (.whole before.length) := by
  have hbodies : ∃ body ∈ Text.lineBodies text, limit < (body.length : Int) := by
    simpa [Text.lines] using h
  obtain ⟨before, body, hfirst⟩ := exists_firstWhere hbodies
  refine ⟨before.map (· ++ ['\n']), body ++ ['\n'], _, FirstWhere.map ?_,
    linesWithin_of_firstWhere hfirst filename, rfl, ?_, ?_⟩
  · simpa [Function.comp_def] using hfirst
  · rw [List.dropLast_concat]
  · rw [List.length_map]
    rfl

/-- **Segmentation**: every line ends in its only line feed, and the lines one
after another are the text, completed by a line feed if it lacks one, with every
pair of a carriage return and a line feed replaced by the line feed from left to
right, of which a row has at most one.  A limit changes nothing where every line
keeps to it; otherwise the first line that does not is blamed by its number. -/
theorem linesWithin_closed (filename : Option Text) (text : Text) :
    linesWithin none filename text = .ok (Text.lines text) ∧
    (∀ line ∈ Text.lines text, ∃ body, line = body ++ ['\n'] ∧ '\n' ∉ body) ∧
    (Text.lines text).flatten =
      (if text = [] then []
       else Text.replaceAll ['\r', '\n'] ['\n']
        (if text.getLast? = some '\n' then text else text ++ ['\n'])) ∧
    (∃ rows, rows.flatten = Text.closed '\n' text ∧
      List.Forall₂ Text.LineOf rows (Text.lines text)) ∧
    ∀ limit : Int,
      (linesWithin (some limit) filename text = linesWithin none filename text ↔
        ∀ line ∈ Text.lines text, (line.dropLast.length : Int) ≤ limit) ∧
      ((∃ line ∈ Text.lines text, limit < line.dropLast.length) →
        ∃ before line, ∃ fault : LineFault,
          FirstWhere (fun line : Text => limit < line.dropLast.length) (Text.lines text)
            before line ∧
          linesWithin (some limit) filename text = .error fault ∧
          fault.fault = .overlong limit ∧ fault.line = line.dropLast.take shownLineSize ∧
          fault.context.lineNum = some (.whole before.length)) := by
  refine ⟨rfl, ?_, ?_, Text.exists_rows text, fun limit => ⟨⟨?_, ?_⟩, ?_⟩⟩
  · intro line hline
    obtain ⟨body, hbody, rfl⟩ := List.mem_map.mp hline
    exact ⟨body, rfl, Text.not_mem_of_mem_cutLines hbody⟩
  · rw [Text.flatten_lines, Text.canonical, Text.closed]
    by_cases hnil : text = []
    · simp [hnil]
    · by_cases hlast : text.getLast? = some '\n' <;> simp [hnil, hlast]
  · intro hsame
    by_contra hlong
    obtain ⟨line, hline, hlong⟩ : ∃ line ∈ Text.lines text, limit < line.dropLast.length := by
      simpa using hlong
    obtain ⟨_, _, fault, -, hfault, -⟩ := linesWithin_of_overlong ⟨line, hline, hlong⟩ filename
    cases hfault.symm.trans hsame
  · intro hwithin
    exact linesWithin_of_forall_le (by simpa using forall_lines_iff.mp hwithin) filename
  · intro hlong
    exact linesWithin_of_overlong hlong filename

/-- Two carriage returns at a line end, of which one is dropped, an empty line, and
an open line that keeps to a limit of three characters but not to one of two. -/
theorem linesWithin_closed_returns :
    let text := "a\r\r\n\nbcd\r".toList
    (Text.lines text).flatten = "a\r\n\nbcd\n".toList ∧
    linesWithin (some 3) none text = .ok ["a\r\n".toList, "\n".toList, "bcd\n".toList] ∧
    ∃ before line, ∃ fault : LineFault,
      FirstWhere (fun line : Text => 2 < (line.dropLast.length : Int)) (Text.lines text)
        before line ∧
      linesWithin (some 2) none text = .error fault ∧ fault.line = "bcd".toList ∧
      fault.context.lineNum = some (.whole before.length) ∧ before.length = 2 := by
  intro text
  have hlines : Text.lines text = ["a\r\n".toList, "\n".toList, "bcd\n".toList] := by
    decide +kernel
  have hblamed : linesWithin (some 2) none text = .error
      { fault := .overlong 2, line := "bcd".toList, lineNum := 2, filename := none
        block := none } := by
    decide +kernel
  obtain ⟨hall, -, hflat, -, hlimit⟩ := linesWithin_closed none text
  refine ⟨hflat.trans (by decide +kernel), ?_, ?_⟩
  · rw [(hlimit 3).1.mpr (by rw [hlines]; decide +kernel), hall, hlines]
  · obtain ⟨before, line, fault, hfirst, hfault, -, -, hnum⟩ :=
      (hlimit 2).2 (by rw [hlines]; decide +kernel)
    cases hfault.symm.trans hblamed
    have hlength : (2 : Int) = before.length := by
      simpa [LineFault.context, Diagnostic.atLine] using hnum
    exact ⟨before, line, _, hfirst, hfault, rfl, hnum, by omega⟩

end Scheme

end SchemeCheck
