import SchemeCheck.Proofs.Record.Plan
import SchemeCheck.Proofs.Scheme.Exchange
import SchemeCheck.Proofs.Text.Lines

/-!
# SchemeCheck.Proofs.Scheme.Grammar

The grammar of schemes.  A line offends against it (`Offends`) if it is a return
code whose value is no integer, or an environment entry that is not `KEY=VALUE`;
both are said of the value alone, without the interpreter.  The main statement
is `interpret_grammar`: a line that is too long is blamed before everything
else, then the first line that offends, with the block that it stands in; every
other scheme has a plan, and the plan is one that records accept.
-/

namespace SchemeCheck

/-! ## The first of a list -/

/-- `x` is the first of `xs` with a property, and `before` are those in front of
it. -/
structure FirstWhere {α : Type} (p : α → Prop) (xs before : List α) (x : α) : Prop where
  stands : before ++ [x] <+: xs
  holds : p x
  earlier : ∀ other ∈ before, ¬ p other

theorem exists_firstWhere {α : Type} {p : α → Prop} {xs : List α} (h : ∃ x ∈ xs, p x) :
    ∃ before x, FirstWhere p xs before x := by
  induction xs with
  | nil => simp at h
  | cons x rest ih =>
      by_cases hx : p x
      · exact ⟨[], x, ⟨rest, rfl⟩, hx, by simp⟩
      · have hrest : ∃ y ∈ rest, p y := by simpa [hx] using h
        obtain ⟨before, y, hstands, hy, hbefore⟩ := ih hrest
        refine ⟨x :: before, y, ?_, hy, List.forall_mem_cons.mpr ⟨hx, hbefore⟩⟩
        exact List.cons_prefix_cons.mpr ⟨rfl, hstands⟩

/-- What is found by its number is the first, and the number says how many stand
in front of it. -/
theorem FirstWhere.find?_zipIdx {α : Type} {p : α → Prop} [DecidablePred p] {xs before : List α}
    {x : α} (h : FirstWhere p xs before x) :
    xs.zipIdx.find? (fun entry => decide (p entry.1)) = some (x, before.length) := by
  obtain ⟨after, rfl⟩ := h.stands
  have hbefore : before.zipIdx.find? (fun entry => decide (p entry.1)) = none := by
    rw [List.find?_eq_none]
    intro entry hentry
    simpa using h.earlier entry.1 (List.fst_mem_of_mem_zipIdx hentry)
  rw [List.append_assoc, List.zipIdx_append, List.find?_append, hbefore, Option.none_or]
  simp [h.holds]

namespace Scheme

/-! ## What a value spells -/

/-- A text spells an integer: digits, at least one, with an optional sign. -/
def SpellsInteger (text : Text) : Prop :=
  ∃ sign digits, text = sign ++ digits ∧ sign ∈ [[], ['+'], ['-']] ∧ digits ≠ [] ∧
    ∀ c ∈ digits, Text.isDigit c = true

/-- What is read is digits behind an optional sign. -/
theorem readInteger?_eq_some {text digits : Text} {negative : Bool}
    (h : readInteger? text = some (negative, digits)) :
    ∃ sign ∈ [[], ['+'], ['-']], text = sign ++ digits ∧ digits ≠ [] ∧
      ∀ c ∈ digits, Text.isDigit c = true := by
  unfold readInteger? at h
  split at h
  next sign found hsigned =>
  split at hsigned <;> cases hsigned
  all_goals
    simp only [Bool.and_eq_true, Bool.not_eq_true', List.isEmpty_eq_false_iff, List.all_eq_true,
      Option.ite_none_right_eq_some, Option.some.injEq, Prod.mk.injEq] at h
    obtain ⟨hdigits, rfl, rfl⟩ := h
  · exact ⟨['-'], by simp, rfl, hdigits⟩
  · exact ⟨['+'], by simp, rfl, hdigits⟩
  · exact ⟨[], by simp, rfl, hdigits⟩

/-- An integer is read exactly if one is spelled. -/
theorem spellsInteger_iff {text : Text} :
    SpellsInteger text ↔ (readInteger? text).isSome = true := by
  constructor
  · rintro ⟨sign, digits, rfl, hsign, hne, hdigits⟩
    have hread : (!digits.isEmpty && digits.all Text.isDigit) = true := by
      simp [hne, List.all_eq_true.mpr hdigits]
    simp only [List.mem_cons, List.not_mem_nil, or_false] at hsign
    obtain rfl | rfl | rfl := hsign
    · obtain ⟨c, rest, rfl⟩ := List.exists_cons_of_ne_nil hne
      -- A digit is no sign, so nothing is taken off the front.
      have hc := hdigits c List.mem_cons_self
      have hminus : c ≠ '-' := by rintro rfl; revert hc; decide
      have hplus : c ≠ '+' := by rintro rfl; revert hc; decide
      unfold readInteger?
      simpa [hminus, hplus] using hdigits
    · simp [readInteger?, hread]
    · simp [readInteger?, hread]
  · intro h
    obtain ⟨⟨negative, digits⟩, hread⟩ := Option.isSome_iff_exists.mp h
    obtain ⟨sign, hsign, htext, hdigits⟩ := readInteger?_eq_some hread
    exact ⟨sign, digits, htext, hsign, hdigits⟩

instance (text : Text) : Decidable (SpellsInteger text) :=
  decidable_of_iff _ spellsInteger_iff.symm

/-- What is read are all the digits of the text. -/
theorem countP_of_readInteger? {text digits : Text} {negative : Bool}
    (h : readInteger? text = some (negative, digits)) :
    text.countP Text.isDigit = digits.length := by
  obtain ⟨sign, hsign, rfl, -, hdigits⟩ := readInteger?_eq_some h
  have hnone : sign.countP Text.isDigit = 0 := by
    simp only [List.mem_cons, List.not_mem_nil, or_false] at hsign
    obtain rfl | rfl | rfl := hsign <;> rfl
  rw [List.countP_append, hnone, Nat.zero_add, List.countP_eq_length.mpr hdigits]

/-! ## Lines that offend -/

/-- A line offends against the grammar: it is a return code that spells no
integer, or an environment entry that has no `=` or has it in front. -/
def Offends (root line : Text) : Prop :=
  (∃ value ∈ Reading.value? .returnCode line, ¬ SpellsInteger value) ∨
  ∃ value ∈ Reading.value? .env line,
    ¬ ('=' ∈ Placeholder.substitute root value ∧
      (Placeholder.substitute root value).head? ≠ some '=')

instance (root line : Text) : Decidable (Offends root line) :=
  inferInstanceAs (Decidable (_ ∨ _))

/-- A line that offends is refused, and it is itself what is blamed. -/
theorem exists_refusal?_of_offends {rules : Rules} {line : Text} (h : Offends rules.root line)
    (block : Block) (lineNum : Int) :
    ∃ fault : LineFault, refusal? rules block line lineNum = some (.fault fault) ∧
      fault.line = line ∧ fault.lineNum = lineNum ∧ fault.block = some block := by
  obtain ⟨value, hvalue, hbad⟩ | ⟨value, hvalue, hbad⟩ := h
  · obtain ⟨behind, hline, rfl⟩ := Reading.value?_eq_some.mp hvalue
    have hread : readInteger? (Text.trim behind) = none := by
      rw [← Option.not_isSome_iff_eq_none, ← spellsInteger_iff]
      exact hbad
    unfold refusal?
    simp only [hline, hread]
    exact ⟨_, rfl, (eq_of_classify hline).symm, rfl, rfl⟩
  · obtain ⟨behind, hline, rfl⟩ := Reading.value?_eq_some.mp hvalue
    rw [← isEnvEntry_iff] at hbad
    unfold refusal?
    simp only [hline, if_neg hbad]
    exact ⟨_, rfl, (eq_of_classify hline).symm, rfl, rfl⟩

/-- A line that does not offend is accepted, unless its number has too many digits. -/
theorem refusal?_of_not_offends {rules : Rules} {line : Text} (h : ¬ Offends rules.root line)
    (hdigits : ∀ value ∈ Reading.value? .returnCode line,
      value.countP Text.isDigit ≤ maxDigits) (block : Block) (lineNum : Int) :
    refusal? rules block line lineNum = none := by
  rw [Offends, not_or] at h
  obtain ⟨hcode, henv⟩ := h
  unfold refusal?
  cases hline : classify line with
  | payload | unknown => rfl
  | directive directive behind =>
      have hvalue : Reading.value? directive line = some (Text.trim behind) :=
        Reading.value?_eq_some.mpr ⟨behind, hline, rfl⟩
      cases directive with
      | stderr | stdout | file | stdin | arg => rfl
      | returnCode =>
          have hspells : SpellsInteger (Text.trim behind) := by
            by_contra hbad
            exact hcode ⟨_, hvalue, hbad⟩
          obtain ⟨⟨negative, digits⟩, hread⟩ :=
            Option.isSome_iff_exists.mp (spellsInteger_iff.mp hspells)
          have hfew : ¬ maxDigits < digits.length :=
            Nat.not_lt.mpr (countP_of_readInteger? hread ▸ hdigits _ hvalue)
          simp only [hread, if_neg hfew]
      | env =>
          have hentry : isEnvEntry (Placeholder.substitute rules.root (Text.trim behind)) = true := by
            rw [isEnvEntry_iff]
            by_contra hbad
            exact henv ⟨_, hvalue, hbad⟩
          simp only [if_pos hentry]

/-! ## Whole schemes -/

/-- The first line that is too long. -/
theorem linesWithin_of_firstWhere {limit : Int} {text : Text} {before : List Text} {body : Text}
    (h : FirstWhere (fun body : Text => limit < body.length) (Text.lineBodies text) before body)
    (filename : Option Text) :
    linesWithin (some limit) filename text =
      .error { fault := .overlong limit, line := body.take shownLineSize
               lineNum := before.length, filename := filename, block := none } := by
  unfold linesWithin overlongFault? Text.firstOverlong?
  rw [Option.bind_some, h.find?_zipIdx, Option.map_some]

/-- A closed line is shown without its line feed. -/
theorem lineElement_closed {body : Text} (h : '\n' ∉ body) (block : Option Text) :
    Diagnostic.lineElement (body ++ ['\n']) block = .dict ((.str "line".toList, .str body) ::
      (block.map fun name => (Value.str "block".toList, Value.str name)).toList) := by
  have hshown : ((body ++ ['\n']).reverse.dropWhile (· = '\n')).reverse = body := by
    have hkept : body.reverse.dropWhile (· = '\n') = body.reverse := by
      rw [List.dropWhile_eq_self_iff]
      intro hne hlast
      exact h (List.mem_reverse.mp (of_decide_eq_true hlast ▸ List.getElem_mem hne))
    simp [hkept]
  rw [Diagnostic.lineElement, hshown]

section Recorded

variable {rules : Rules} (hrecorded : rules.escalate = false) {scheme : Text}
  (hwithin : ∀ limit ∈ rules.maxLineSize, ∀ body ∈ Text.lineBodies scheme, body.length ≤ limit)
include hrecorded hwithin

/-- The first line that is refused is the failure of the scheme. -/
theorem outcome_of_refused {before : List Text} {line : Text} {failure : Failure}
    (hstands : before ++ [line] <+: Text.lines scheme)
    (hbefore : ∀ other ∈ before, refusal? rules .none other 0 = none)
    (h : refusal? rules (openAfter before .none) line before.length = some failure) :
    (interpret rules scheme).outcome = .error failure := by
  obtain ⟨after, hlines⟩ := hstands
  rw [outcome_interpret hrecorded, linesWithin_of_forall_le hwithin]
  dsimp only
  rw [← hlines, List.append_assoc, firstRefusal?_append, firstRefusal?_eq_none_iff.mpr hbefore,
    Option.none_or, List.singleton_append, firstRefusal?, Int.zero_add, h, Option.some_or]

variable (hdigits : ∀ line ∈ Text.lines scheme, ∀ value ∈ Reading.value? .returnCode line,
    value.countP Text.isDigit ≤ maxDigits)
include hdigits

/-- The first line that offends is the first that is refused. -/
theorem outcome_of_offends {before : List Text} {line : Text}
    (h : FirstWhere (Offends rules.root) (Text.lines scheme) before line) :
    ∃ fault : LineFault, (interpret rules scheme).outcome = .error (.fault fault) ∧
      fault.line = line ∧ fault.lineNum = before.length ∧
      fault.block = some (((Reading.nearest? before).map Opener.block).getD .none) := by
  have hbefore : ∀ other ∈ before, refusal? rules .none other 0 = none := by
    intro other hother
    have hmem : other ∈ Text.lines scheme := h.stands.mem (List.mem_append_left _ hother)
    exact refusal?_of_not_offends (h.earlier other hother) (hdigits other hmem) _ _
  obtain ⟨fault, hrefusal, hline, hnum, hblock⟩ :=
    exists_refusal?_of_offends h.holds (openAfter before .none) before.length
  exact ⟨fault, outcome_of_refused hrecorded hwithin h.stands hbefore hrefusal, hline, hnum,
    by rw [hblock, openAfter_eq]⟩

/-- Without a line that offends there is a plan. -/
theorem outcome_of_none_offends (h : ∀ line ∈ Text.lines scheme, ¬ Offends rules.root line) :
    (interpret rules scheme).outcome = .ok (Reading.plan rules.root scheme) := by
  have haccepted : firstRefusal? rules .none 0 (Text.lines scheme) = none := by
    rw [firstRefusal?_eq_none_iff]
    exact fun line hline => refusal?_of_not_offends (h line hline) (hdigits line hline) _ _
  rw [outcome_interpret hrecorded, linesWithin_of_forall_le hwithin]
  dsimp only
  rw [haccepted]

end Recorded

/-- What is read of lines that do not offend is a record. -/
theorem ofFields_reading {root scheme : Text}
    (h : ∀ line ∈ Text.lines scheme, ¬ Offends root line) :
    Plan.ofFields ((Reading.plan root scheme).fields root) = .valid (Reading.plan root scheme) := by
  refine Plan.ofFields_fields rfl ?_ ?_
  · rw [Reading.plan, Reading.keys_filesOf]
    exact Reading.nodup_fileNames _
  · intro entry hentry
    obtain ⟨value, hvalue, rfl⟩ := List.mem_map.mp hentry
    obtain ⟨line, hline, hvalue⟩ := List.mem_filterMap.mp hvalue
    rw [Plan.startsWithKey_iff]
    by_contra hbad
    exact h line hline (.inr ⟨value, hvalue, hbad⟩)

/-- **Grammar**: where remarks are recorded and return codes have few enough
digits, the first line that is too long is blamed, and nothing is remarked on;
without one, the first line that offends is blamed, with the block that the last
opener before it has opened; and without one of these, there is a plan, which
records accept. -/
theorem interpret_grammar {rules : Rules} (hrecorded : rules.escalate = false) {scheme : Text}
    (hdigits : ∀ line ∈ Text.lines scheme, ∀ value ∈ Reading.value? .returnCode line,
      value.countP Text.isDigit ≤ maxDigits) :
    (∀ limit ∈ rules.maxLineSize, (∃ body ∈ Text.lineBodies scheme, limit < body.length) →
      (interpret rules scheme).warnings = [] ∧
      ∃ before body, ∃ fault : LineFault,
        FirstWhere (fun body : Text => limit < body.length) (Text.lineBodies scheme) before body ∧
        (interpret rules scheme).outcome = .error (.fault fault) ∧
        fault.fault = .overlong limit ∧
        fault.context.lineNum = some (.whole before.length)) ∧
    ((∀ limit ∈ rules.maxLineSize, ∀ body ∈ Text.lineBodies scheme, body.length ≤ limit) →
      ((∃ line ∈ Text.lines scheme, Offends rules.root line) →
        ∃ before body, ∃ fault : LineFault,
          FirstWhere (Offends rules.root) (Text.lines scheme) before (body ++ ['\n']) ∧
          (interpret rules scheme).outcome = .error (.fault fault) ∧
          fault.context.lineNum = some (.whole before.length) ∧
          fault.context.element = some (.dict
            [ (.str "line".toList, .str body),
              (.str "block".toList,
                .str (((Reading.nearest? before).map Opener.block).getD .none).name) ])) ∧
      ((∀ line ∈ Text.lines scheme, ¬ Offends rules.root line) →
        ∃ plan, (interpret rules scheme).outcome = .ok plan ∧
          Plan.ofFields (plan.fields rules.root) = .valid plan)) := by
  refine ⟨?_, fun hwithin => ⟨?_, ?_⟩⟩
  · intro limit hlimit hlong
    obtain ⟨before, body, hfirst⟩ := exists_firstWhere hlong
    have hlines := linesWithin_of_firstWhere hfirst rules.filename
    rw [← Option.mem_def.mp hlimit] at hlines
    simp only [interpret, hlines, true_and]
    exact ⟨before, body, _, hfirst, rfl, rfl, rfl⟩
  · intro hbad
    obtain ⟨before, line, hfirst⟩ := exists_firstWhere hbad
    obtain ⟨fault, houtcome, hline, hnum, hblock⟩ :=
      outcome_of_offends hrecorded hwithin hdigits hfirst
    have hmem : line ∈ Text.lines scheme := hfirst.stands.mem (by simp)
    obtain ⟨body, hbody, rfl⟩ := List.mem_map.mp hmem
    refine ⟨before, body, fault, hfirst, houtcome, ?_, ?_⟩
    · rw [LineFault.context, Diagnostic.atLine, hnum]
    · rw [LineFault.context, Diagnostic.atLine, hline, hblock,
        lineElement_closed (Text.not_mem_of_mem_cutLines hbody)]
      rfl
  · intro hnone
    exact ⟨_, outcome_of_none_offends hrecorded hwithin hdigits hnone, ofFields_reading hnone⟩

/-- An entry that the root makes malformed, in the block of standard input, before
a line that is too long for a lower limit; and an entry that the root completes. -/
theorem interpret_grammar_rooted :
    let rules : Rules := { root := "=r".toList }
    let lines := ["--return-code: +7\n".toList, "--stdin\n".toList, "--env: {dir}\n".toList,
      "more than twenty characters\n".toList]
    let fault : LineFault :=
      { fault := .envEntry "=r".toList, line := "--env: {dir}\n".toList, lineNum := 2
        filename := none, block := some .stdin }
    let overlong : LineFault :=
      { fault := .overlong 20, line := "more than twenty characters".toList, lineNum := 3
        filename := none, block := none }
    (∀ line ∈ lines, ∀ value ∈ Reading.value? .returnCode line,
      value.countP Text.isDigit ≤ maxDigits) ∧
    (interpret { rules with maxLineSize := some 20 } lines.flatten).outcome =
      .error (.fault overlong) ∧
    (∃ before body, FirstWhere (fun body : Text => 20 < (body.length : Int))
      (Text.lineBodies lines.flatten) before body ∧
      overlong.context.lineNum = some (.whole before.length)) ∧
    (interpret rules lines.flatten).outcome = .error (.fault fault) ∧
    (∃ before body, FirstWhere (Offends "=r".toList) lines before (body ++ ['\n']) ∧
      fault.context.lineNum = some (.whole before.length) ∧
      fault.context.element = some (.dict
        [ (.str "line".toList, .str body),
          (.str "block".toList,
            .str (((Reading.nearest? before).map Opener.block).getD .none).name) ])) ∧
    ∃ plan, (interpret { rules with root := "k=".toList } lines.flatten).outcome = .ok plan ∧
      plan.env = ["k=".toList] ∧ Plan.ofFields (plan.fields "k=".toList) = .valid plan := by
  intro rules lines fault overlong
  have hlines : Text.lines lines.flatten = lines := by decide +kernel
  have hfew : ∀ line ∈ lines, ∀ value ∈ Reading.value? .returnCode line,
      value.countP Text.isDigit ≤ maxDigits := by decide +kernel
  have hdigits := hfew
  rw [← hlines] at hdigits
  have hlong : (interpret { rules with maxLineSize := some 20 } lines.flatten).outcome =
      .error (.fault overlong) := by decide +kernel
  have hbad : (interpret rules lines.flatten).outcome = .error (.fault fault) := by
    decide +kernel
  refine ⟨hfew, hlong, ?_, hbad, ?_, ?_⟩
  · obtain ⟨-, before, body, found, hfirst, houtcome, -, hnum⟩ :=
      (@interpret_grammar { rules with maxLineSize := some 20 } rfl lines.flatten hdigits).1 20 rfl
        (by decide +kernel)
    cases houtcome.symm.trans hlong
    exact ⟨before, body, hfirst, hnum⟩
  · obtain ⟨before, body, found, hfirst, houtcome, hnum, helement⟩ :=
      ((@interpret_grammar rules rfl lines.flatten hdigits).2 (by decide +kernel)).1
        (by rw [hlines]; decide +kernel)
    cases houtcome.symm.trans hbad
    rw [hlines] at hfirst
    exact ⟨before, body, hfirst, hnum, helement⟩
  · obtain ⟨plan, hplan, hrecord⟩ :=
      ((@interpret_grammar { rules with root := "k=".toList } rfl lines.flatten hdigits).2
        (by decide +kernel)).2 (by rw [hlines]; decide +kernel)
    have henv : ((interpret { rules with root := "k=".toList } lines.flatten).outcome.map
        Plan.env) = .ok ["k=".toList] := by decide +kernel
    rw [hplan] at henv
    exact ⟨plan, hplan, Except.ok.inj henv, hrecord⟩

end Scheme

end SchemeCheck
