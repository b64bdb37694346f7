import Mathlib.Data.List.Induction
import SchemeCheck.Proofs.Table
import SchemeCheck.Scheme.Interpreter

/-!
# SchemeCheck.Proofs.Scheme.Step

What the lines of a scheme do to the state of its interpretation.  `Fed` lists
everything that one accepted line can do, one rule for each kind of line, and
`feed_ok` says that `State.feed` does nothing else.  `Ran` closes this over the
lines from the first one on; `ran_of_feedFrom_ok` and `interpret_ok` carry it
to whole schemes.  Every statement about the plan of a scheme is an induction
on `Ran` with the rules of `Fed` as cases; none of them opens `State.feed`.
-/

namespace SchemeCheck.Scheme

/-! ## Steps in sequence -/

namespace Noted

@[simp] theorem result_pure {α : Type} (a : α) : (Noted.pure a).result = .ok a := rfl

@[simp] theorem warnings_pure {α : Type} (a : α) : (Noted.pure a).warnings = [] := rfl

@[simp] theorem result_fail {α : Type} (failure : Failure) :
    (Noted.fail failure : Noted α).result = .error failure := rfl

/-- Two steps in sequence succeed exactly if both do. -/
theorem bind_ok {α β : Type} {first : Noted α} {next : α → Noted β} {b : β} :
    (first >>= next).result = .ok b ↔ ∃ a, first.result = .ok a ∧ (next a).result = .ok b := by
  change (Noted.bind first next).result = .ok b ↔ _
  unfold Noted.bind
  cases first.result with
  | error failure => simp
  | ok a => simp

/-- A step that only some states ask for leaves what follows it as it is. -/
theorem ok_of_ite {α β : Type} {c : Prop} [Decidable c] {first : Noted α} {next : Noted β} {b : β}
    (h : (if c then first >>= fun _ => next else next).result = .ok b) : next.result = .ok b := by
  split at h
  · obtain ⟨-, -, h⟩ := bind_ok.mp h
    exact h
  · exact h

end Noted

/-! ## Kinds of lines -/

/-- A front is stripped exactly if it is there. -/
theorem stripFront?_eq_some_iff {front xs rest : Text} :
    Text.stripFront? front xs = some rest ↔ xs = front ++ rest := by
  unfold Text.stripFront?
  split
  · next h =>
    obtain ⟨behind, rfl⟩ := List.isPrefixOf_iff_prefix.mp h
    simp
  · next h =>
    constructor
    · intro hnone
      cases hnone
    · rintro rfl
      exact absurd (List.isPrefixOf_iff_prefix.mpr (List.prefix_append front rest)) h

/-- What is found is a directive. -/
theorem exists_of_firstDirective? {line : Text} {directives : List Directive} {found : Line}
    (h : firstDirective? line directives = some found) :
    ∃ directive value, found = .directive directive value ∧ line = directive.mark ++ value := by
  induction directives with
  | nil => cases h
  | cons directive rest ih =>
      unfold firstDirective? at h
      split at h
      · next value hstrip =>
        exact ⟨directive, value, (Option.some.inj h).symm, stripFront?_eq_some_iff.mp hstrip⟩
      · exact ih h

/-- Every mark of a directive starts as directives do. -/
theorem directiveMark_isPrefix (directive : Directive) : directiveMark <+: directive.mark := by
  cases directive <;> decide

/-- A directive is its mark and its value. -/
theorem eq_of_classify {line value : Text} {directive : Directive}
    (h : classify line = .directive directive value) : line = directive.mark ++ value := by
  unfold classify at h
  cases hfirst : firstDirective? line Directive.all with
  | none =>
      simp only [hfirst] at h
      split at h <;> cases h
  | some found =>
      simp only [hfirst] at h
      obtain ⟨other, rest, rfl, hline⟩ := exists_of_firstDirective? hfirst
      cases h
      exact hline

/-- Payload is every line that does not start as directives do. -/
theorem classify_eq_payload_iff {line : Text} :
    classify line = .payload ↔ ¬ directiveMark <+: line := by
  unfold classify
  cases hfirst : firstDirective? line Directive.all with
  | none =>
      simp only [← List.isPrefixOf_iff_prefix]
      split <;> simp_all
  | some found =>
      obtain ⟨directive, value, rfl, rfl⟩ := exists_of_firstDirective? hfirst
      simp only [reduceCtorEq, false_iff, not_not]
      exact (directiveMark_isPrefix directive).trans (List.prefix_append _ _)

/-! ## Blocks -/

/-- What a line opens. -/
inductive Opener where
  | stderr
  | stdout
  | stdin
  /-- The file with the given name. -/
  | file (name : Text)
  deriving DecidableEq

/-- What a line opens, if it opens a block. -/
def opener? (line : Text) : Option Opener :=
  match classify line with
  | .directive .stderr _ => some .stderr
  | .directive .stdout _ => some .stdout
  | .directive .stdin _ => some .stdin
  | .directive .file value => some (.file (Text.trim value))
  | _ => none

/-- What the open block of a state was opened as. -/
def State.opener? (state : State) : Option Opener :=
  match state.block with
  | .none => none
  | .file => some (.file state.pendingFile)
  | .stdout => some .stdout
  | .stderr => some .stderr
  | .stdin => some .stdin

/-- The state with its open file block stored. -/
def State.flushed (state : State) : State :=
  if state.block = .file then
    { state with
      files := state.files.put state.pendingFile state.pendingContent.flatten
      pendingContent := [] }
  else state

/-- The state in which a line has opened a block. -/
def State.opened (opener : Opener) (lineNum : Int) (state : State) : State :=
  match opener with
  | .stderr => { state.flushed with block := .stderr }
  | .stdout => { state.flushed with block := .stdout }
  | .stdin => { state.flushed with block := .stdin }
  | .file name =>
    { state.flushed with block := .file, pendingFile := name, pendingLine := lineNum }

section Fields

/- Storing a file touches the files only, opening a block the block besides. -/

variable (opener : Opener) (lineNum : Int) (state : State)

@[simp] theorem State.args_flushed : state.flushed.args = state.args := by
  unfold State.flushed; split <;> rfl

@[simp] theorem State.env_flushed : state.flushed.env = state.env := by
  unfold State.flushed; split <;> rfl

@[simp] theorem State.stdin_flushed : state.flushed.stdin = state.stdin := by
  unfold State.flushed; split <;> rfl

@[simp] theorem State.stdout_flushed : state.flushed.stdout = state.stdout := by
  unfold State.flushed; split <;> rfl

@[simp] theorem State.stderr_flushed : state.flushed.stderr = state.stderr := by
  unfold State.flushed; split <;> rfl

@[simp] theorem State.returnCode_flushed : state.flushed.returnCode = state.returnCode := by
  unfold State.flushed; split <;> rfl

@[simp] theorem State.returnCodeLine_flushed :
    state.flushed.returnCodeLine = state.returnCodeLine := by
  unfold State.flushed; split <;> rfl

@[simp] theorem State.args_opened : (state.opened opener lineNum).args = state.args := by
  cases opener <;> exact state.args_flushed

@[simp] theorem State.env_opened : (state.opened opener lineNum).env = state.env := by
  cases opener <;> exact state.env_flushed

@[simp] theorem State.stdin_opened : (state.opened opener lineNum).stdin = state.stdin := by
  cases opener <;> exact state.stdin_flushed

@[simp] theorem State.stdout_opened : (state.opened opener lineNum).stdout = state.stdout := by
  cases opener <;> exact state.stdout_flushed

@[simp] theorem State.stderr_opened : (state.opened opener lineNum).stderr = state.stderr := by
  cases opener <;> exact state.stderr_flushed

@[simp] theorem State.returnCode_opened :
    (state.opened opener lineNum).returnCode = state.returnCode := by
  cases opener <;> exact state.returnCode_flushed

@[simp] theorem State.returnCodeLine_opened :
    (state.opened opener lineNum).returnCodeLine = state.returnCodeLine := by
  cases opener <;> exact state.returnCodeLine_flushed

@[simp] theorem State.pendingContent_opened :
    (state.opened opener lineNum).pendingContent = state.flushed.pendingContent := by
  cases opener <;> rfl

end Fields

@[simp] theorem State.opener?_opened (opener : Opener) (lineNum : Int) (state : State) :
    (state.opened opener lineNum).opener? = some opener := by
  cases opener <;> rfl

section Payload

/- A payload line goes to the open block and nowhere else. -/

variable (rules : Rules) (line : Text) (state : State)

@[simp] theorem State.args_take : (state.take rules line).args = state.args := by
  unfold State.take; cases state.block <;> rfl

@[simp] theorem State.env_take : (state.take rules line).env = state.env := by
  unfold State.take; cases state.block <;> rfl

@[simp] theorem State.returnCode_take :
    (state.take rules line).returnCode = state.returnCode := by
  unfold State.take; cases state.block <;> rfl

@[simp] theorem State.returnCodeLine_take :
    (state.take rules line).returnCodeLine = state.returnCodeLine := by
  unfold State.take; cases state.block <;> rfl

@[simp] theorem State.pendingLine_take :
    (state.take rules line).pendingLine = state.pendingLine := by
  unfold State.take; cases state.block <;> rfl

@[simp] theorem State.block_take : (state.take rules line).block = state.block := by
  unfold State.take; cases h : state.block <;> simp [h]

@[simp] theorem State.opener?_take : (state.take rules line).opener? = state.opener? := by
  unfold State.take State.opener?; cases h : state.block <;> simp [h]

theorem State.stdin_take : (state.take rules line).stdin =
    if state.opener? = some .stdin then state.stdin ++ [line] else state.stdin := by
  unfold State.take State.opener?; cases state.block <;> simp

theorem State.stdout_take : (state.take rules line).stdout =
    if state.opener? = some .stdout then
      state.stdout ++ [Placeholder.substitute rules.root line]
    else state.stdout := by
  unfold State.take State.opener?; cases state.block <;> simp

theorem State.stderr_take : (state.take rules line).stderr =
    if state.opener? = some .stderr then
      state.stderr ++ [Placeholder.substitute rules.root line]
    else state.stderr := by
  unfold State.take State.opener?; cases state.block <;> simp

/-- The open file block holds the line, as long as it is not stored. -/
theorem State.pendingContent_take : (state.take rules line).pendingContent =
    match state.opener? with
    | some (.file _) => state.pendingContent ++ [Placeholder.substitute rules.root line]
    | _ => state.pendingContent := by
  unfold State.take State.opener?; cases state.block <;> rfl

/-- Stored, the open file has the line behind what was held. -/
theorem State.files_flushed_take : (state.take rules line).flushed.files =
    match state.opener? with
    | some (.file name) => state.flushed.files.put name
        (state.pendingContent ++ [Placeholder.substitute rules.root line]).flatten
    | _ => state.flushed.files := by
  unfold State.flushed State.take State.opener?
  cases h : state.block <;> simp [h, Table.put_put]

end Payload

/-- Storing a file does nothing but store it, with a remark or without. -/
theorem State.flushFile_ok {rules : Rules} {state next : State}
    (h : (state.flushFile rules).result = .ok next) : next = state.flushed := by
  unfold State.flushFile at h
  by_cases hblock : state.block = .file
  · rw [if_neg (Decidable.not_not.mpr hblock)] at h
    rw [State.flushed, if_pos hblock]
    exact (Except.ok.inj (Noted.ok_of_ite h)).symm
  · rw [if_pos hblock] at h
    rw [State.flushed, if_neg hblock]
    exact (Except.ok.inj h).symm

theorem State.openBlock_ok {rules : Rules} {block : Block} {state next : State}
    (h : (state.openBlock rules block).result = .ok next) :
    next = { state.flushed with block := block } := by
  obtain ⟨flushed, hflush, h⟩ := Noted.bind_ok.mp h
  rw [State.flushFile_ok hflush] at h
  exact (Except.ok.inj h).symm

/-! ## One line -/

/-- The value of an integer with an optional sign. -/
def integerOf (negative : Bool) (digits : Text) : Int :=
  if negative then -(Text.digitsValue digits : Int) else Text.digitsValue digits

/-- Everything that an accepted line can do to a state. -/
inductive Fed (rules : Rules) (line : Text) (lineNum : Int) (state : State) : State → Prop
  | opens {opener : Opener} (h : opener? line = some opener) :
      Fed rules line lineNum state (state.opened opener lineNum)
  | returnCode {value digits : Text} {negative : Bool}
      (h : classify line = .directive .returnCode value)
      (hread : readInteger? (Text.trim value) = some (negative, digits)) :
      Fed rules line lineNum state
        { state with
          returnCode := integerOf negative digits
          returnCodeLine := some lineNum }
  | arg {value : Text} (h : classify line = .directive .arg value) :
      Fed rules line lineNum state
        { state with args := state.args ++ [Placeholder.substitute rules.root (Text.trim value)] }
  | env {value : Text} (h : classify line = .directive .env value)
      (hentry : isEnvEntry (Placeholder.substitute rules.root (Text.trim value)) = true) :
      Fed rules line lineNum state
        { state with env := state.env ++ [Placeholder.substitute rules.root (Text.trim value)] }
  | unknown (h : classify line = .unknown) : Fed rules line lineNum state state
  | payload (h : classify line = .payload) :
      Fed rules line lineNum state (state.take rules line)

/-- **Step**: a line that is accepted does what its kind allows. -/
theorem feed_ok {rules : Rules} {line : Text} {lineNum : Int} {state next : State}
    (h : (state.feed rules line lineNum).result = .ok next) :
    Fed rules line lineNum state next := by
  unfold State.feed at h
  cases hline : classify line with
  | payload =>
      simp only [hline, Noted.result_pure, Except.ok.injEq] at h
      rw [← h]
      exact .payload hline
  | unknown =>
      simp only [hline, Noted.bind_ok, Noted.result_pure, Except.ok.injEq] at h
      obtain ⟨-, -, rfl⟩ := h
      exact .unknown hline
  | directive directive value =>
      simp only [hline] at h
      cases directive with
      | stderr =>
          rw [State.openBlock_ok h]
          exact @Fed.opens _ _ _ _ .stderr (by simp [opener?, hline])
      | stdout =>
          rw [State.openBlock_ok h]
          exact @Fed.opens _ _ _ _ .stdout (by simp [opener?, hline])
      | stdin =>
          rw [State.openBlock_ok h]
          exact @Fed.opens _ _ _ _ .stdin (by simp [opener?, hline])
      | file =>
          obtain ⟨opened, hopened, h⟩ := Noted.bind_ok.mp h
          rw [State.openBlock_ok hopened] at h
          rw [← Except.ok.inj h]
          exact @Fed.opens _ _ _ _ (.file (Text.trim value)) (by simp [opener?, hline])
      | returnCode =>
          simp only [State.follow, State.setReturnCode] at h
          cases hread : readInteger? (Text.trim value) with
          | none => simp [hread] at h
          | some found =>
              obtain ⟨negative, digits⟩ := found
              simp only [hread] at h
              replace h := Noted.ok_of_ite h
              split at h
              · simp at h
              · rw [← Except.ok.inj h]
                exact .returnCode hline hread
      | arg =>
          rw [← Except.ok.inj h]
          exact .arg hline
      | env =>
          simp only [State.follow, State.addEnv] at h
          split at h
          · next hentry =>
            rw [← Except.ok.inj h]
            exact .env hline hentry
          · simp at h

/-! ## All lines -/

/-- The states that some lines lead to from a clean start, when all of them are
accepted. -/
inductive Ran (rules : Rules) : List Text → State → Prop
  | start : Ran rules [] {}
  | line {lines : List Text} {line : Text} {state next : State} (h : Ran rules lines state)
      (hfed : Fed rules line lines.length state next) : Ran rules (lines ++ [line]) next

/-- After a failure no line is consumed. -/
theorem feedFrom_error {rules : Rules} {progress : Progress Unit} {failure : Failure}
    (h : progress.outcome = .error failure) (lineNum : Int) (lines : List Text) :
    feedFrom rules lineNum lines progress = progress := by
  cases lines with
  | nil => rfl
  | cons line rest => simp [feedFrom, h]

/-- Lines are consumed one after another. -/
theorem feedFrom_append (rules : Rules) (lineNum : Int) (xs ys : List Text)
    (progress : Progress Unit) :
    feedFrom rules lineNum (xs ++ ys) progress =
      feedFrom rules (lineNum + xs.length) ys (feedFrom rules lineNum xs progress) := by
  induction xs generalizing lineNum progress with
  | nil => simp [feedFrom]
  | cons line rest ih =>
      rw [List.cons_append, feedFrom]
      cases hout : progress.outcome with
      | error failure =>
          rw [feedFrom_error hout, feedFrom_error hout]
      | ok =>
          rw [feedFrom]
          simp only [hout, ih, List.length_cons]
          congr 1
          omega

/-- Lines that are all accepted lead to a state by the rules. -/
theorem ran_of_feedFrom_ok {rules : Rules} {lines : List Text}
    (h : (feedFrom rules 0 lines { state := {}, warnings := [], outcome := .ok () }).outcome =
      .ok ()) :
    Ran rules lines
      (feedFrom rules 0 lines { state := {}, warnings := [], outcome := .ok () }).state := by
  induction lines using List.reverseRecOn with
  | nil => exact .start
  | append_singleton lines line ih =>
      rw [feedFrom_append, Int.zero_add] at h ⊢
      generalize feedFrom rules 0 lines { state := {}, warnings := [], outcome := .ok () } =
        progress at h ih ⊢
      cases hout : progress.outcome with
      | error failure =>
          rw [feedFrom_error hout, hout] at h
          cases h
      | ok =>
          simp only [feedFrom, hout] at h ⊢
          unfold State.advance at h ⊢
          cases hstep : (progress.state.feed rules line lines.length).result with
          | error failure => simp [hstep] at h
          | ok next => exact (ih hout).line (feed_ok hstep)

/-- Lines that are within the limit are all lines. -/
theorem linesWithin_ok {limit : Option Int} {filename : Option Text} {text : Text}
    {lines : List Text} (h : linesWithin limit filename text = .ok lines) :
    lines = Text.lines text := by
  unfold linesWithin at h
  split at h
  · cases h
  · exact (Except.ok.inj h).symm

/-- **Run**: the plan of a scheme is read off the state that its lines lead to. -/
theorem interpret_ok {rules : Rules} {scheme : Text} {plan : Plan}
    (h : (interpret rules scheme).outcome = .ok plan) :
    ∃ state, Ran rules (Text.lines scheme) state ∧ plan = state.flushed.plan rules scheme := by
  unfold interpret at h
  cases hlines : linesWithin rules.maxLineSize rules.filename scheme with
  | error fault => simp [hlines] at h
  | ok lines =>
      obtain rfl := linesWithin_ok hlines
      simp only [hlines] at h
      split at h
      · cases h
      · next hfed =>
        refine ⟨_, ran_of_feedFrom_ok hfed, ?_⟩
        simp only [State.advance] at h
        split at h
        · next state hflush =>
          rw [← State.flushFile_ok hflush]
          exact (Except.ok.inj h).symm
        · cases h

end SchemeCheck.Scheme
