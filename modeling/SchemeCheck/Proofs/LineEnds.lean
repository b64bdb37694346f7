import Mathlib.Data.List.Infix
import SchemeCheck.Proofs.Report
import SchemeCheck.Scheme.Interpreter

/-!
# SchemeCheck.Proofs.LineEnds

Line ends do not matter.  A text can be spelled with a carriage return in front
of some of its line feeds, and with its last line closed or left open
(`Text.Respelled`); unless it had carriage returns in these places before, its
lines stay the same (`Text.cutLines_respelled`).  Interpretation and comparison
look at the lines only, so neither can tell the two spellings apart:
`respelled_indistinguishable`.
-/

namespace SchemeCheck

namespace Text

variable {σ : Type}

/-! ## Two spellings of the line ends -/

/-- A text in which no carriage return stands directly before a line feed or at
the end. -/
structure Plain (lf cr : σ) (xs : List σ) : Prop where
  pair : ¬ [cr, lf] <:+: xs
  last : xs.getLast? ≠ some cr

/-- The second text is the first one with one carriage return in front of each
of some line feeds. -/
inductive Returned (lf cr : σ) : List σ → List σ → Prop
  | nil : Returned lf cr [] []
  | keep (x : σ) {xs ys : List σ} (h : Returned lf cr xs ys) : Returned lf cr (x :: xs) (x :: ys)
  | insert {xs ys : List σ} (h : Returned lf cr xs ys) :
      Returned lf cr (lf :: xs) (cr :: lf :: ys)

/-- The second text spells the line ends of the first one in another way: with
carriage returns in front of some line feeds and, where the last line is open,
perhaps with that line closed in one way or the other. -/
inductive Respelled (lf cr : σ) (xs : List σ) : List σ → Prop
  | inside {ys : List σ} (h : Returned lf cr xs ys) : Respelled lf cr xs ys
  | closed {ys ending : List σ} (h : Returned lf cr xs ys) (hne : xs ≠ [])
      (hopen : xs.getLast? ≠ some lf) (hend : ending = [lf] ∨ ending = [cr, lf]) :
      Respelled lf cr xs (ys ++ ending)

namespace Returned

variable {lf cr : σ}

theorem refl (xs : List σ) : Returned lf cr xs xs := by
  induction xs with
  | nil => exact .nil
  | cons x rest ih => exact .keep x ih

theorem append_left (front : List σ) {xs ys : List σ} (h : Returned lf cr xs ys) :
    Returned lf cr (front ++ xs) (front ++ ys) := by
  induction front with
  | nil => exact h
  | cons x rest ih => exact .keep x ih

/-- Without a line feed there is nothing to put a carriage return in front of. -/
theorem eq_of_not_mem {body ys : List σ} (hbody : lf ∉ body) (h : Returned lf cr body ys) :
    ys = body := by
  induction h with
  | nil => rfl
  | keep x h ih => rw [ih fun hm => hbody (List.mem_cons_of_mem x hm)]
  | insert h => exact absurd List.mem_cons_self hbody

/-- A closed body keeps its characters and is closed in one of the two ways. -/
theorem exists_of_append {body rest ys : List σ} (hbody : lf ∉ body)
    (h : Returned lf cr (body ++ lf :: rest) ys) :
    ∃ zs, Returned lf cr rest zs ∧ (ys = body ++ lf :: zs ∨ ys = body ++ cr :: lf :: zs) := by
  induction body generalizing ys with
  | nil =>
      cases h with
      | keep _ h => exact ⟨_, h, .inl rfl⟩
      | insert h => exact ⟨_, h, .inr rfl⟩
  | cons x more ih =>
      have hx : lf ≠ x := fun e => hbody (e ▸ List.mem_cons_self)
      cases h with
      | keep _ h =>
          obtain ⟨zs, hzs, rfl | rfl⟩ := ih (fun hm => hbody (List.mem_cons_of_mem x hm)) h
          · exact ⟨zs, hzs, .inl rfl⟩
          · exact ⟨zs, hzs, .inr rfl⟩
      | insert h => exact absurd rfl hx

end Returned

/-! ## The lines of both -/

section Lines

variable {lf cr : σ} {body rest : List σ}

namespace Plain

/-- The first body of a plain text does not end in a carriage return. -/
theorem getLast?_ne (h : Plain lf cr (body ++ lf :: rest)) : body.getLast? ≠ some cr := by
  intro hlast
  obtain ⟨front, rfl⟩ := List.getLast?_eq_some_iff.mp hlast
  exact h.pair ⟨front, rest, by simp⟩

theorem of_append (h : Plain lf cr (body ++ lf :: rest)) : Plain lf cr rest where
  pair hi := h.pair (hi.trans ⟨body ++ [lf], [], by simp⟩)
  last hlast := by
    have hrest : rest ≠ [] := by
      rintro rfl
      cases hlast
    exact h.last ((getLast?_append_cons hrest body).trans hlast)

end Plain

/-- What follows the first line of a text is spelled in another way with it. -/
theorem Respelled.exists_of_append {ys : List σ} (hbody : lf ∉ body)
    (h : Respelled lf cr (body ++ lf :: rest) ys) :
    ∃ zs, Respelled lf cr rest zs ∧
      (ys = body ++ lf :: zs ∨ ys = body ++ cr :: lf :: zs) := by
  cases h with
  | inside h =>
      obtain ⟨zs, hzs, hys⟩ := h.exists_of_append hbody
      exact ⟨zs, .inside hzs, hys⟩
  | @closed _ ending h _ hopen hend =>
      have hrest : rest ≠ [] := by
        rintro rfl
        simp at hopen
      rw [getLast?_append_cons hrest] at hopen
      obtain ⟨zs, hzs, rfl | rfl⟩ := h.exists_of_append hbody
      · exact ⟨zs ++ ending, .closed hzs hrest hopen hend, .inl (by simp)⟩
      · exact ⟨zs ++ ending, .closed hzs hrest hopen hend, .inr (by simp)⟩

variable [DecidableEq σ]

/-- A body that is closed by the pair is a line without it. -/
theorem cutLines_returned (hne : cr ≠ lf) (hbody : lf ∉ body) (rest : List σ) :
    cutLines lf cr (body ++ cr :: lf :: rest) = body :: cutLines lf cr rest := by
  have hmem : lf ∉ body ++ [cr] := by
    simp [hbody, Ne.symm hne]
  rw [List.append_cons, cutLines_append hmem, chomp_append_singleton]

/-- **Line ends**: another spelling of the line ends of a plain text has the same
lines. -/
theorem cutLines_respelled (hne : cr ≠ lf) {xs ys : List σ} (hplain : Plain lf cr xs)
    (h : Respelled lf cr xs ys) : cutLines lf cr ys = cutLines lf cr xs := by
  induction xs using line_induction lf generalizing ys with
  | last body hbody =>
      cases h with
      | inside h => rw [h.eq_of_not_mem hbody]
      | closed h hnil _ hend =>
          rw [h.eq_of_not_mem hbody, cutLines_of_not_mem hbody, if_neg hnil,
            chomp_eq_self_iff.mpr hplain.last]
          obtain rfl | rfl := hend
          · rw [cutLines_append hbody, chomp_eq_self_iff.mpr hplain.last]
            rfl
          · rw [cutLines_returned hne hbody]
            rfl
  | line body rest hbody ih =>
      obtain ⟨zs, hzs, hys⟩ := h.exists_of_append hbody
      have hrest := ih hplain.of_append hzs
      rw [cutLines_append hbody, chomp_eq_self_iff.mpr hplain.getLast?_ne, ← hrest]
      obtain rfl | rfl := hys
      · rw [cutLines_append hbody, chomp_eq_self_iff.mpr hplain.getLast?_ne]
      · exact cutLines_returned hne hbody zs

end Lines

end Text

/-! ## Interpretation and comparison -/

namespace Scheme

/-- Interpretation looks at the lines of a scheme only, and keeps the scheme for
its plan. -/
theorem interpret_of_lineBodies_eq (rules : Rules) {first second : Text}
    (h : Text.lineBodies second = Text.lineBodies first) :
    interpret rules second =
      { interpret rules first with
        outcome := (interpret rules first).outcome.map fun plan =>
          { plan with scheme := second } } := by
  have hwithin : linesWithin rules.maxLineSize rules.filename second =
      linesWithin rules.maxLineSize rules.filename first := by
    unfold linesWithin overlongFault? Text.lines
    rw [h]
  unfold interpret
  rw [hwithin]
  cases linesWithin rules.maxLineSize rules.filename first with
  | error fault => rfl
  | ok lines =>
      dsimp only
      generalize feedFrom rules 0 lines { state := {}, warnings := [], outcome := .ok () } = fed
      cases hfed : fed.outcome with
      | error failure => rfl
      | ok =>
          dsimp only
          generalize fed.state.advance fed.warnings (fed.state.flushFile rules) = ended
          cases ended.outcome <;> rfl

end Scheme

namespace Report

/-- A comparison is passed or not by the lines of an outcome. -/
theorem passed_of_lineBodies_eq (plan : Scheme.Plan) {outcome other : Outcome}
    (hcode : other.returnCode = outcome.returnCode)
    (hout : other.stdout.lineBodies = outcome.stdout.lineBodies)
    (herr : other.stderr.lineBodies = outcome.stderr.lineBodies) :
    (compare plan other).passed = (compare plan outcome).passed := by
  rw [Bool.eq_iff_iff, passed_compare_iff, passed_compare_iff, Outcome.Meets, Outcome.Meets,
    hcode, Capture.lineBodies_eq_iff.mp hout, Capture.lineBodies_eq_iff.mp herr]

end Report

/-- **Line ends do not matter**: another spelling of the line ends of a scheme
gives the same plan, the same warnings and the same failures, and another
spelling of those of both outputs the same verdict. -/
theorem respelled_indistinguishable :
    (∀ (rules : Scheme.Rules) {scheme other : Text}, Text.Plain '\n' '\r' scheme →
      Text.Respelled '\n' '\r' scheme other →
      (Scheme.interpret rules other).warnings = (Scheme.interpret rules scheme).warnings ∧
        (Scheme.interpret rules other).outcome =
          (Scheme.interpret rules scheme).outcome.map fun plan =>
            { plan with scheme := other }) ∧
    ∀ (plan : Scheme.Plan) (outcome : Outcome) {stdout stderr : Capture},
      Text.Plain (.char '\n') (.char '\r') outcome.stdout →
      Text.Plain (.char '\n') (.char '\r') outcome.stderr →
      Text.Respelled (.char '\n') (.char '\r') outcome.stdout stdout →
      Text.Respelled (.char '\n') (.char '\r') outcome.stderr stderr →
      (Report.compare plan { outcome with stdout := stdout, stderr := stderr }).passed =
        (Report.compare plan outcome).passed := by
  constructor
  · intro rules scheme other hplain hother
    have hlines : Text.lineBodies other = Text.lineBodies scheme :=
      Text.cutLines_respelled (by decide) hplain hother
    rw [Scheme.interpret_of_lineBodies_eq rules hlines]
    exact ⟨rfl, rfl⟩
  · intro plan outcome stdout stderr hplain hplain' hout herr
    exact Report.passed_of_lineBodies_eq plan rfl
      (Text.cutLines_respelled (by decide) hplain hout)
      (Text.cutLines_respelled (by decide) hplain' herr)

/-- A scheme at its limit, and the output that it expects, with carriage returns
in front of some line feeds, of which one closes an empty line, and with the
last line closed. -/
theorem respelled_indistinguishable_at_limit :
    let rules : Scheme.Rules := { root := "/r".toList, strict := true, maxLineSize := some 16 }
    let scheme := "--return-code: 2".toList ++ '\n' ::
      ("--stdout\na\rb".toList ++ '\n' :: '\n' :: "--oops\nlast".toList)
    let other := "--return-code: 2".toList ++ '\r' :: '\n' ::
      ("--stdout\na\rb".toList ++ '\n' :: '\r' :: '\n' :: "--oops\nlast".toList) ++ ['\r', '\n']
    let stdout := Capture.ofText "a\rb".toList ++ .char '\n' :: .char '\n' ::
      Capture.ofText "last".toList
    let crlf := Capture.ofText "a\rb".toList ++ .char '\r' :: .char '\n' :: .char '\n' ::
      Capture.ofText "last".toList ++ [.char '\n']
    let outcome : Outcome := { stdout := stdout, stderr := [], returnCode := 2 }
    Text.Plain '\n' '\r' scheme ∧ Text.Respelled '\n' '\r' scheme other ∧
    Text.Plain (.char '\n') (.char '\r') stdout ∧
    Text.Respelled (.char '\n') (.char '\r') stdout crlf ∧
    ∃ plan, (Scheme.interpret rules scheme).outcome = .ok plan ∧
      (Scheme.interpret rules other).outcome = .ok { plan with scheme := other } ∧
      (Scheme.interpret rules other).warnings = (Scheme.interpret rules scheme).warnings ∧
      (Scheme.interpret rules scheme).warnings.length = 1 ∧
      (Report.compare plan outcome).passed = true ∧
      (Report.compare plan { outcome with stdout := crlf }).passed = true := by
  intro rules scheme other stdout crlf outcome
  have hplain : Text.Plain '\n' '\r' scheme := ⟨by decide +kernel, by decide +kernel⟩
  have hother : Text.Respelled '\n' '\r' scheme other :=
    .closed (.append_left _ (.insert (.append_left _ (.keep _ (.insert (.refl _))))))
      (by decide +kernel) (by decide +kernel) (.inr rfl)
  have hplain' : Text.Plain (.char '\n') (.char '\r') stdout :=
    ⟨by decide +kernel, by decide +kernel⟩
  have hcrlf : Text.Respelled (.char '\n') (.char '\r') stdout crlf :=
    .closed (.append_left _ (.insert (.keep _ (.refl _))))
      (by decide +kernel) (by decide +kernel) (.inl rfl)
  let plan : Scheme.Plan :=
    { rootDir := Path.ofText "/r".toList, files := [], args := [], env := [], stdin := []
      stdout := "a\rb\n\nlast\n".toList, stderr := [], returnCode := 2, scheme := scheme }
  have hplan : (Scheme.interpret rules scheme).outcome = .ok plan := by decide +kernel
  have hpassed : (Report.compare plan outcome).passed = true := by decide +kernel
  obtain ⟨hinterpret, hcompare⟩ := respelled_indistinguishable
  obtain ⟨hwarnings, houtcome⟩ := hinterpret rules hplain hother
  have hverdict := hcompare plan outcome hplain' ⟨by decide, by decide⟩ hcrlf (.inside .nil)
  rw [hplan] at houtcome
  exact ⟨hplain, hother, hplain', hcrlf, plan, hplan, houtcome, hwarnings, by decide +kernel,
    hpassed, hverdict.trans hpassed⟩

end SchemeCheck
