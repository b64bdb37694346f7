import Mathlib.Data.List.TakeWhile
import SchemeCheck.Proofs.Scheme.Reading

/-!
# SchemeCheck.Proofs.Scheme.Acceptance

Which schemes have a plan.  `feed_eq` says in full what a line does: the remark
comes first, then the line is refused or makes the next state.  Whether it is
refused depends on the line and on the open block only, and the block depends
only on the openers so far; so for a scheme whose remarks are recorded the
outcome can be told from its lines.  The main statement is `outcome_interpret`:
the first line that is refused is the failure, and without one the plan is the
one that is read.
-/

namespace SchemeCheck.Scheme

/-! ## One line -/

/-- The kind of block that an opener opens. -/
def Opener.block : Opener → Block
  | .stderr => .stderr
  | .stdout => .stdout
  | .stdin => .stdin
  | .file _ => .file

/-- The remark that storing the open block gives rise to, with its line. -/
def State.storeRemark? (state : State) : Option (Remark × Int) :=
  if state.block = .file ∧ state.files.has state.pendingFile = true then
    some (.repeatedFile state.pendingFile, state.pendingLine)
  else none

/-- The remark that a line gives rise to, with the line that it is about. -/
def State.remark? (line : Text) (lineNum : Int) (state : State) : Option (Remark × Int) :=
  match classify line with
  | .directive .returnCode value =>
    if (readInteger? (Text.trim value)).isSome ∧ state.returnCodeLine.isSome then
      some (.repeatedReturnCode, lineNum)
    else none
  | .directive .arg _ | .directive .env _ | .payload => none
  | .directive .stderr _ | .directive .stdout _ | .directive .stdin _ | .directive .file _ =>
    state.storeRemark?
  | .unknown => some (.unknownDirective (Text.trim line), lineNum)

/-- An environment entry has an `=`, and not in front. -/
theorem isEnvEntry_iff {entry : Text} :
    isEnvEntry entry = true ↔ '=' ∈ entry ∧ entry.head? ≠ some '=' := by
  have hcut : (entry.dropWhile fun x => decide (x ≠ '=')).isEmpty = true ↔ '=' ∉ entry := by
    rw [List.isEmpty_iff, List.dropWhile_eq_nil_iff]
    exact ⟨fun h hmem => by simpa using h '=' hmem,
      fun h x hx => decide_eq_true fun e => h (e ▸ hx)⟩
  have hkey : (entry.takeWhile fun x => decide (x ≠ '=')).isEmpty = true ↔
      entry = [] ∨ entry.head? = some '=' := by
    cases entry with
    | nil => decide
    | cons c rest => by_cases hc : c = '=' <;> simp [hc]
  unfold isEnvEntry Text.cutAt
  by_cases hmem : '=' ∈ entry
  · have hne : entry ≠ [] := List.ne_nil_of_mem hmem
    simp only [if_neg (mt hcut.mp (not_not_intro hmem)), hmem, true_and, Bool.not_eq_true',
      ← Bool.not_eq_true, hkey, hne, false_or]
  · simp only [if_pos (hcut.mpr hmem), hmem, false_and, Bool.false_eq_true]

/-- Why a line is refused, if it is, when the given block is open. -/
def refusal? (rules : Rules) (block : Block) (line : Text) (lineNum : Int) : Option Failure :=
  match classify line with
  | .directive .returnCode value =>
    match readInteger? (Text.trim value) with
    | none =>
      some (.fault
        { fault := .returnCode (Text.trim value)
          line := Directive.returnCode.mark ++ value
          lineNum := lineNum
          filename := rules.filename
          block := some block })
    | some (_, digits) =>
      if maxDigits < digits.length then some (.tooManyDigits digits.length) else none
  | .directive .env value =>
    let entry := Placeholder.substitute rules.root (Text.trim value)
    if isEnvEntry entry then none
    else
      some (.fault
        { fault := .envEntry entry
          line := Directive.env.mark ++ value
          lineNum := lineNum
          filename := rules.filename
          block := some block })
  | _ => none

/-- The state that a line makes if it is not refused. -/
def State.next (rules : Rules) (line : Text) (lineNum : Int) (state : State) : State :=
  match classify line with
  | .directive .stderr _ => state.opened .stderr lineNum
  | .directive .stdout _ => state.opened .stdout lineNum
  | .directive .stdin _ => state.opened .stdin lineNum
  | .directive .file value => state.opened (.file (Text.trim value)) lineNum
  | .directive .returnCode value =>
    { state with
      returnCode := Reading.integerIn (Text.trim value)
      returnCodeLine := some lineNum }
  | .directive .arg value =>
    { state with args := state.args ++ [Placeholder.substitute rules.root (Text.trim value)] }
  | .directive .env value =>
    { state with env := state.env ++ [Placeholder.substitute rules.root (Text.trim value)] }
  | .unknown => state
  | .payload => state.take rules line

/-- A step with a remark in front of it, if there is one to make. -/
def noting {α : Type} (rules : Rules) (remark? : Option (Remark × Int)) (step : Noted α) :
    Noted α :=
  match remark? with
  | none => step
  | some (about, lineNum) => do
    remark rules about lineNum
    step

theorem noting_bind {α β : Type} (rules : Rules) (remark? : Option (Remark × Int))
    (step : Noted α) (next : α → Noted β) :
    noting rules remark? step >>= next = noting rules remark? (step >>= next) := by
  cases remark? with
  | none => rfl
  | some about =>
      obtain ⟨about, lineNum⟩ := about
      change Noted.bind (Noted.bind (remark rules about lineNum) fun _ => step) next =
        Noted.bind (remark rules about lineNum) fun _ => Noted.bind step next
      unfold Noted.bind
      cases (remark rules about lineNum).result with
      | error failure => rfl
      | ok => cases hstep : step.result <;> simp [List.append_assoc]

theorem flushFile_eq (rules : Rules) (state : State) :
    state.flushFile rules = noting rules state.storeRemark? (Noted.pure state.flushed) := by
  unfold State.flushFile State.storeRemark? State.flushed
  by_cases hblock : state.block = .file
  · by_cases hhas : state.files.has state.pendingFile = true
    · simp [hblock, hhas, noting]
    · simp [hblock, hhas, noting]
  · simp [hblock, noting]

theorem openBlock_eq (rules : Rules) (block : Block) (state : State) :
    state.openBlock rules block =
      noting rules state.storeRemark? (Noted.pure { state.flushed with block := block }) := by
  unfold State.openBlock
  rw [flushFile_eq, noting_bind]
  rfl

/-- **Step**: the remark of a line comes first; then it is refused or makes the
next state. -/
theorem feed_eq (rules : Rules) (line : Text) (lineNum : Int) (state : State) :
    state.feed rules line lineNum = noting rules (state.remark? line lineNum)
      (match refusal? rules state.block line lineNum with
       | some failure => Noted.fail failure
       | none => Noted.pure (state.next rules line lineNum)) := by
  unfold State.feed State.remark? refusal? State.next
  cases hline : classify line with
  | payload => rfl
  | unknown => rfl
  | directive directive value =>
      cases directive with
      | stderr | stdout | stdin => exact openBlock_eq rules _ state
      | file =>
          change state.openBlock rules .file >>= _ = _
          rw [openBlock_eq, noting_bind]
          rfl
      | arg => rfl
      | env =>
          simp only [State.follow, State.addEnv, noting]
          split <;> rfl
      | returnCode =>
          simp only [State.follow, State.setReturnCode]
          cases hread : readInteger? (Text.trim value) with
          | none => simp [noting]
          | some found =>
              obtain ⟨negative, digits⟩ := found
              have hvalue : Reading.integerIn (Text.trim value) = integerOf negative digits := by
                rw [Reading.integerIn, hread]
              cases hcode : state.returnCodeLine.isSome <;>
                by_cases hmany : maxDigits < digits.length <;>
                simp [noting, hmany, hvalue, integerOf]

/-! ## Recorded remarks -/

/-- A remark as it is recorded: only strict mode makes any. -/
def recorded (rules : Rules) (remark? : Option (Remark × Int)) : List Warning :=
  if rules.strict then
    remark?.toList.map fun about =>
      { remark := about.1, lineNum := about.2, filename := rules.filename }
  else []

/-- A remark that is recorded does not change what a step comes to. -/
theorem noting_recorded {rules : Rules} (h : rules.escalate = false) {α : Type}
    (remark? : Option (Remark × Int)) (step : Noted α) :
    noting rules remark? step =
      { warnings := recorded rules remark? ++ step.warnings, result := step.result } := by
  cases remark? with
  | none => simp [noting, recorded]
  | some about =>
      change Noted.bind (remark rules about.1 about.2) (fun _ => step) = _
      cases hstrict : rules.strict <;> simp [Noted.bind, remark, recorded, hstrict, h]

/-- The block that is open after a line. -/
def blockAfter (line : Text) (block : Block) : Block :=
  ((opener? line).map Opener.block).getD block

theorem block_next (rules : Rules) (line : Text) (lineNum : Int) (state : State) :
    (state.next rules line lineNum).block = blockAfter line state.block := by
  unfold State.next blockAfter opener?
  cases classify line with
  | unknown => rfl
  | payload => exact state.block_take rules line
  | directive directive value => cases directive <;> rfl

/-! ## All lines -/

/-- Why the first of some lines that is refused is refused. -/
def firstRefusal? (rules : Rules) (block : Block) (lineNum : Int) : List Text → Option Failure
  | [] => none
  | line :: rest =>
    (refusal? rules block line lineNum).or
      (firstRefusal? rules (blockAfter line block) (lineNum + 1) rest)

/-- Whether a line is refused does not depend on where it stands. -/
theorem refusal?_eq_none_congr (rules : Rules) (line : Text) (block other : Block)
    (lineNum otherNum : Int) :
    refusal? rules block line lineNum = none ↔ refusal? rules other line otherNum = none := by
  unfold refusal?
  cases classify line with
  | payload | unknown => rfl
  | directive directive value =>
      cases directive with
      | stderr | stdout | file | stdin | arg => rfl
      | returnCode => cases hread : readInteger? (Text.trim value) <;> simp [hread]
      | env => simp

/-- Nothing is refused among lines of which each is accepted by itself. -/
theorem firstRefusal?_eq_none_iff {rules : Rules} {block : Block} {lineNum : Int}
    {lines : List Text} :
    firstRefusal? rules block lineNum lines = none ↔
      ∀ line ∈ lines, refusal? rules .none line 0 = none := by
  induction lines generalizing block lineNum with
  | nil => simp [firstRefusal?]
  | cons line rest ih =>
      rw [firstRefusal?, Option.or_eq_none_iff, ih, List.forall_mem_cons,
        refusal?_eq_none_congr rules line block .none lineNum 0]

section Recorded

variable {rules : Rules} (hrecorded : rules.escalate = false)
include hrecorded

/-- A line that is not refused. -/
theorem feedFrom_cons_of_accepted {lineNum : Int} {line : Text} {rest : List Text}
    {progress : Progress Unit} (hok : progress.outcome = .ok ())
    (h : refusal? rules progress.state.block line lineNum = none) :
    feedFrom rules lineNum (line :: rest) progress =
      feedFrom rules (lineNum + 1) rest
        { state := progress.state.next rules line lineNum
          warnings := progress.warnings ++ recorded rules (progress.state.remark? line lineNum)
          outcome := .ok () } := by
  rw [feedFrom]
  simp only [hok, State.advance, feed_eq, noting_recorded hrecorded, h, Noted.result_pure,
    Noted.warnings_pure, List.append_nil]

/-- Refused lines end the run with the reason of the first one. -/
theorem outcome_feedFrom (lineNum : Int) (lines : List Text) (progress : Progress Unit)
    (hok : progress.outcome = .ok ()) :
    (feedFrom rules lineNum lines progress).outcome =
      match firstRefusal? rules progress.state.block lineNum lines with
      | some failure => .error failure
      | none => .ok () := by
  induction lines generalizing lineNum progress with
  | nil => exact hok
  | cons line rest ih =>
      cases hline : refusal? rules progress.state.block line lineNum with
      | none =>
          rw [feedFrom_cons_of_accepted hrecorded hok hline, ih (lineNum + 1) _ rfl, block_next,
            firstRefusal?, hline, Option.none_or]
      | some failure =>
          rw [feedFrom]
          simp only [hok, State.advance, feed_eq, noting_recorded hrecorded, hline,
            Noted.result_fail]
          rw [feedFrom_error rfl, firstRefusal?, hline, Option.some_or]

/-- Lines of which none is refused are all consumed. -/
theorem outcome_feedFrom_of_accepted {lines : List Text}
    (h : firstRefusal? rules .none 0 lines = none) :
    (feedFrom rules 0 lines { state := {}, warnings := [], outcome := .ok () }).outcome =
      .ok () := by
  rw [outcome_feedFrom hrecorded 0 lines _ rfl]
  simp only [h]

end Recorded

/-- Lines within the limit are cut without a fault. -/
theorem linesWithin_of_forall_le {limit : Option Int} {text : Text}
    (h : ∀ most ∈ limit, ∀ body ∈ Text.lineBodies text, (body.length : Int) ≤ most)
    (filename : Option Text) : linesWithin limit filename text = .ok (Text.lines text) := by
  have hnone : (limit.bind fun most => overlongFault? most filename text) = none := by
    cases limit with
    | none => rfl
    | some most =>
        have hfirst : Text.firstOverlong? most (Text.lineBodies text) = none := by
          rw [Text.firstOverlong?, List.find?_eq_none]
          intro entry hentry
          have hle := h most rfl entry.1 (List.fst_mem_of_mem_zipIdx hentry)
          simpa using hle
        simp [overlongFault?, hfirst]
  rw [linesWithin, hnone]

/-- **Outcome**: where remarks are recorded, the failure of a scheme is the first
refusal among its lines, and without one it has the plan that is read. -/
theorem outcome_interpret {rules : Rules} (hrecorded : rules.escalate = false) (scheme : Text) :
    (interpret rules scheme).outcome =
      match linesWithin rules.maxLineSize rules.filename scheme with
      | .error fault => .error (.fault fault)
      | .ok lines =>
        match firstRefusal? rules .none 0 lines with
        | some failure => .error failure
        | none => .ok (Reading.plan rules.root scheme) := by
  cases hlines : linesWithin rules.maxLineSize rules.filename scheme with
  | error fault => simp only [interpret, hlines]
  | ok lines =>
      have hfed := outcome_feedFrom hrecorded 0 lines
        { state := {}, warnings := [], outcome := .ok () } rfl
      simp only [interpret, hlines]
      cases hrefusal : firstRefusal? rules .none 0 lines with
      | some failure =>
          simp only [hrefusal] at hfed
          simp only [hfed]
      | none =>
          simp only [hrefusal] at hfed
          have hread := Reading.reads_of_ran (ran_of_feedFrom_ok hfed)
          rw [linesWithin_ok hlines] at hfed hread ⊢
          simp only [hfed, State.advance, flushFile_eq, noting_recorded hrecorded,
            Noted.result_pure, Except.map, Reading.plan_flushed hread]

/-- A scheme has a plan exactly if no line is too long and none is refused. -/
theorem interpret_eq_ok_iff {rules : Rules} (hrecorded : rules.escalate = false) {scheme : Text}
    {plan : Plan} :
    (interpret rules scheme).outcome = .ok plan ↔
      linesWithin rules.maxLineSize rules.filename scheme = .ok (Text.lines scheme) ∧
        firstRefusal? rules .none 0 (Text.lines scheme) = none ∧
        plan = Reading.plan rules.root scheme := by
  rw [outcome_interpret hrecorded]
  cases hlines : linesWithin rules.maxLineSize rules.filename scheme with
  | error fault => simp
  | ok lines =>
      obtain rfl := linesWithin_ok hlines
      dsimp only
      cases firstRefusal? rules .none 0 (Text.lines scheme) with
      | some failure => simp
      | none => simp [eq_comm]

/-- The remarks of a scheme in which nothing is refused: those of its lines, and
that of the file block that it ends in. -/
theorem warnings_interpret {rules : Rules} (hrecorded : rules.escalate = false) {scheme : Text}
    {lines : List Text} (hlines : linesWithin rules.maxLineSize rules.filename scheme = .ok lines)
    (h : firstRefusal? rules .none 0 lines = none) :
    (interpret rules scheme).warnings =
      let fed := feedFrom rules 0 lines { state := {}, warnings := [], outcome := .ok () }
      fed.warnings ++ recorded rules fed.state.storeRemark? := by
  have hfed := outcome_feedFrom_of_accepted hrecorded h
  simp only [interpret, hlines, hfed, State.advance, flushFile_eq, noting_recorded hrecorded,
    Noted.result_pure, Noted.warnings_pure, List.append_nil]

end SchemeCheck.Scheme
