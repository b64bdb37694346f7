import SchemeCheck.Proofs.Scheme.Step
import SchemeCheck.Scheme.Method

/-!
# SchemeCheck.Proofs.Scheme.Atomicity

Methods of the interpreter that fail without a trace.  `Performs method step`
says that a method does to the state what a step answers, and nothing where the
step fails.  Two rules keep it: a check may come first (`performs_check_bind`),
and assignments may come last (`Performs.assign`).  An assignment followed by
something that can fail is an instance of neither, so a method that performs a
step makes all its checks before it assigns.  `feed` does (`performs_feed`), and
therefore a line that is refused changes nothing: `feed_atomic`.

Over all lines of a scheme this makes `parse` the interpretation of the scheme,
whatever state it is called in (`parse_eq`).
-/

namespace SchemeCheck.Scheme

namespace Method

variable {rules : Rules}

/-- The method does to the state what the step answers, and nothing where the
step fails. -/
def Performs (method : Method Unit) (step : State → Noted State) : Prop :=
  ∀ state, method state = state.advance [] (step state)

/-- A method that performs a step leaves the state alone where it fails. -/
theorem Performs.atomic {method : Method Unit} {step : State → Noted State}
    (h : Performs method step) {state : State} {failure : Failure}
    (hfail : (method state).outcome = .error failure) : (method state).state = state := by
  rw [h state] at hfail ⊢
  unfold State.advance at hfail ⊢
  cases hstep : (step state).result with
  | ok next => simp [hstep] at hfail
  | error cause => rfl

/-! ## Sequences -/

theorem after_nil {α : Type} (progress : Progress α) : progress.after [] = progress := rfl

theorem bind_ok {α β : Type} {first : Method α} {next : α → Method β} {state : State} {a : α}
    (h : (first state).outcome = .ok a) :
    (first >>= next) state = (next a (first state).state).after (first state).warnings := by
  change Method.bind first next state = _
  simp only [Method.bind, h]

theorem bind_error {α β : Type} {first : Method α} {next : α → Method β} {state : State}
    {failure : Failure} (h : (first state).outcome = .error failure) :
    (first >>= next) state = { first state with outcome := .error failure } := by
  change Method.bind first next state = _
  simp only [Method.bind, h]

theorem assign_bind_assign (first second : State → State) :
    (assign first >>= fun _ => assign second) = assign fun state => second (first state) := rfl

/-- What is read first is the state itself. -/
theorem performs_current_bind {next : State → Method Unit} {step : State → Noted State}
    (h : ∀ state, next state state = state.advance [] (step state)) :
    Performs (current >>= next) step := h

theorem performs_assign (change : State → State) :
    Performs (assign change) (fun state => Noted.pure (change state)) := fun _ => rfl

theorem performs_check {noted : Noted Unit} :
    Performs (check noted) (fun state => noted >>= fun _ => Noted.pure state) := by
  intro state
  change check noted state = state.advance [] (Noted.bind noted _)
  unfold check Noted.bind State.advance
  cases noted.result <;> simp

/-- **A check may come first.** -/
theorem performs_check_bind {α : Type} {noted : Noted α} {next : α → Method Unit}
    {step : α → State → Noted State} (h : ∀ a, Performs (next a) (step a)) :
    Performs (check noted >>= next) (fun state => noted >>= fun a => step a state) := by
  intro state
  change Method.bind (check noted) next state = state.advance [] (Noted.bind noted _)
  unfold Method.bind Noted.bind check State.advance
  cases noted.result with
  | error failure => simp
  | ok a =>
      simp only [h a state, State.advance, Progress.after, List.nil_append]
      cases (step a state).result <;> rfl

/-- **Assignments may come last.** -/
theorem Performs.assign {method : Method Unit} {step : State → Noted State}
    (h : Performs method step) (change : State → State) :
    Performs (method >>= fun _ => Method.assign change)
      (fun state => step state >>= fun next => Noted.pure (change next)) := by
  intro state
  change Method.bind method _ state = state.advance [] (Noted.bind (step state) _)
  unfold Method.bind Noted.bind Method.assign
  rw [h state]
  unfold State.advance
  cases (step state).result with
  | error failure => rfl
  | ok next => simp [Progress.after]

/-! ## Lines -/

theorem performs_flushFile : Performs (flushFile rules) (State.flushFile rules) := by
  refine performs_current_bind fun state => ?_
  unfold State.flushFile
  by_cases hblock : state.block = .file
  · rw [if_pos hblock, if_neg (not_not_intro hblock), assign_bind_assign]
    split
    · exact performs_check_bind (fun _ => performs_assign _) state
    · rfl
  · rw [if_neg hblock, if_pos hblock]
    rfl

theorem performs_openBlock (block : Block) :
    Performs (openBlock rules block) (State.openBlock rules block) :=
  performs_flushFile.assign _

theorem performs_openFile (value : Text) (lineNum : Int) :
    Performs (openFile rules value lineNum) (State.openFile rules value lineNum) :=
  (performs_openBlock .file).assign _

/-- The digits of a return code are counted before anything is assigned. -/
theorem performs_readDigits (negative : Bool) (digits : Text) (lineNum : Int) :
    Performs
      (do let code ← check (readDigits negative digits)
          assign fun state => { state with returnCode := code }
          assign fun state => { state with returnCodeLine := some lineNum })
      (fun state =>
        if maxDigits < digits.length then Noted.fail (.tooManyDigits digits.length)
        else Noted.pure { state with
          returnCode := integerOf negative digits
          returnCodeLine := some lineNum }) := by
  intro state
  have hnext : Performs _ (fun state => readDigits negative digits >>= fun code =>
      Noted.pure { state with returnCode := code, returnCodeLine := some lineNum }) :=
    performs_check_bind fun _ => performs_assign _
  refine (hnext state).trans (congrArg (state.advance []) ?_)
  unfold readDigits
  split <;> rfl

theorem performs_setReturnCode (value : Text) (lineNum : Int) :
    Performs (setReturnCode rules value lineNum) (State.setReturnCode rules value lineNum) := by
  refine performs_current_bind fun state => ?_
  unfold State.setReturnCode
  dsimp only
  cases readInteger? (Text.trim value) with
  | none => rfl
  | some found =>
      obtain ⟨negative, digits⟩ := found
      have hcode := performs_readDigits negative digits lineNum
      dsimp only
      split
      · exact performs_check_bind (fun _ => hcode) state
      · exact hcode state

theorem performs_addEnv (value : Text) (lineNum : Int) :
    Performs (addEnv rules value lineNum) (State.addEnv rules value lineNum) := by
  refine performs_current_bind fun state => ?_
  unfold State.addEnv
  dsimp only
  split <;> rfl

theorem performs_follow (directive : Directive) (value : Text) (lineNum : Int) :
    Performs (follow rules directive value lineNum)
      (State.follow rules directive value lineNum) := by
  cases directive with
  | stderr => exact performs_openBlock .stderr
  | stdout => exact performs_openBlock .stdout
  | stdin => exact performs_openBlock .stdin
  | file => exact performs_openFile value lineNum
  | returnCode => exact performs_setReturnCode value lineNum
  | arg => exact performs_assign _
  | env => exact performs_addEnv value lineNum

/-- **Step**: feeding a line does what the line does to the state. -/
theorem performs_feed (line : Text) (lineNum : Int) :
    Performs (feed rules line lineNum) (State.feed rules line lineNum) := by
  unfold feed State.feed
  cases classify line with
  | directive directive value => exact performs_follow directive value lineNum
  | unknown => exact performs_check
  | payload => exact performs_assign _

/-- **A line that is refused changes nothing**, whatever state it is fed in and
whatever refuses it. -/
theorem feed_atomic (rules : Rules) (line : Text) (lineNum : Int) (state : State)
    {failure : Failure} (h : (feed rules line lineNum state).outcome = .error failure) :
    (feed rules line lineNum state).state = state :=
  (performs_feed line lineNum).atomic h

/-- A file block that cannot be closed, since its file is there already, stays open
with all that it holds. -/
theorem feed_atomic_repeatedFile :
    let rules : Rules := { root := "/r".toList, strict := true, escalate := true }
    let lines := ["--file:a\n".toList, "{dir}\n".toList, "--file: a\n".toList, "2\n".toList]
    let state := (feedAll rules 0 lines {}).state
    let fed := feed rules "--file:b\n".toList 4 state
    let warning : Warning :=
      { remark := .repeatedFile "a".toList, lineNum := 2, filename := none }
    fed.outcome = .error (.escalated warning) ∧ fed.state = state ∧
      fed.state.pendingContent = ["2\n".toList] := by
  intro rules lines state fed warning
  have hfail : fed.outcome = .error (.escalated warning) := by
    decide +kernel
  have hsame : fed.state = state := feed_atomic rules "--file:b\n".toList 4 state hfail
  exact ⟨hfail, hsame, by rw [hsame]; decide +kernel⟩

/-! ## Schemes -/

theorem feedAll_cons (line : Text) (rest : List Text) (lineNum : Int) :
    feedAll rules lineNum (line :: rest) =
      Method.bind (feed rules line lineNum) fun _ => feedAll rules (lineNum + 1) rest := rfl

/-- **Run**: lines that are fed one after another are the lines of a scheme that is
interpreted. -/
theorem feedFrom_eq (lineNum : Int) (lines : List Text) (warnings : List Warning) (state : State) :
    feedFrom rules lineNum lines { state := state, warnings := warnings, outcome := .ok () } =
      (feedAll rules lineNum lines state).after warnings := by
  induction lines generalizing lineNum warnings state with
  | nil => simp [feedFrom, feedAll, Method.pure, Progress.after]
  | cons line rest ih =>
      rw [feedFrom, feedAll_cons, Method.bind, performs_feed line lineNum state]
      unfold State.advance
      cases (state.feed rules line lineNum).result with
      | error failure => simp [feedFrom_error, Progress.after]
      | ok next => simp [ih, Progress.after]

/-- A method may answer with something of the state that it leaves. -/
theorem answering_eq {α : Type} (method : Method Unit) (answer : State → α) (state : State) :
    (do method
        let state ← current
        pure (answer state) : Method α) state =
      { method state with
        outcome := (method state).outcome.map fun () => answer (method state).state } := by
  cases h : (method state).outcome with
  | error failure => exact bind_error h
  | ok =>
      rw [bind_ok h]
      change ({ state := _, warnings := _ ++ [], outcome := _ } : Progress α) = _
      rw [List.append_nil]
      rfl

/-- A reset assigns every field, so what follows it starts from a clean state. -/
theorem reset_bind {α : Type} (next : Unit → Method α) (state : State) :
    (reset >>= next) state = next () {} := rfl

/-- **Parsing is interpretation**, whatever state it is called in. -/
theorem parse_eq (rules : Rules) (scheme : Text) (state : State) :
    parse rules scheme state = interpret rules scheme := by
  unfold parse interpret
  cases linesWithin rules.maxLineSize rules.filename scheme with
  | error fault => rfl
  | ok lines =>
      rw [reset_bind]
      dsimp only
      rw [feedFrom_eq, after_nil]
      cases hfed : (feedAll rules 0 lines {}).outcome with
      | error failure => exact bind_error hfed
      | ok =>
          rw [bind_ok hfed]
          rw [answering_eq, performs_flushFile]
          unfold State.advance
          cases ((feedAll rules 0 lines {}).state.flushFile rules).result <;>
            simp [Progress.after]

end Method

end SchemeCheck.Scheme
