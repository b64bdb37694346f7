import SchemeCheck.Proofs.Scheme.Acceptance
import SchemeCheck.Proofs.Scheme.Atomicity
import SchemeCheck.Proofs.Text.Rewriting

/-!
# SchemeCheck.Proofs.Scheme.History

What holds of an interpreter after any history of calls, those that failed
included.  Parsing begins with a reset, which assigns every field, and so does
not depend on the history at all: `parse_after`.

An interpreter that is driven line by line, or scheme by scheme, is in a
consistent state (`State.Consistent`): what it holds back belongs to the open
file block, what it has recorded is closed, and its files are named by lines
that were fed.  One accepted line keeps this (`State.Consistent.step`, by
the rules of `Fed`); a refused one changes nothing, and so every method keeps it
(`Method.Keeps`) and every history: `consistent_after`.
-/

namespace SchemeCheck.Scheme

/-! ## Starting anew -/

/-- **Reuse**: whatever calls were made before, with remarks being failures at some times and
not at others, parsing comes to the same plan or failure with the same warnings, and leaves
the same state, as on a new interpreter. -/
theorem parse_after (rules : Rules) (events : List Event) (scheme : Text) :
    Method.parse rules scheme (State.after rules events {}) = Method.parse rules scheme {} := by
  unfold Method.parse
  rw [Method.reset_bind, Method.reset_bind]

/-- A file block that could not be stored is left open.  The next scheme does not get its
lines, and its file of the same name is the first one. -/
example :
    let rules : Rules := { root := "/r".toList, strict := true }
    let events : List Event :=
      [{ call := .parse "--file:a\n1\n--file:a\n2\n".toList, escalate := true },
        { call := .follow .env "=3".toList 4 }]
    let reused := Method.parse rules "--file:a\n4\n".toList (State.after rules events {})
    (State.after rules events {}).pendingContent = ["2\n".toList] ∧
      reused.warnings = [] ∧ reused.state.files = [("a".toList, "4\n".toList)] := by
  decide +kernel

/-! ## Consistent states -/

/-- The lines that a state has recorded, stored files apart. -/
def State.recorded (state : State) : List Text :=
  state.stdin ++ state.stdout ++ state.stderr ++ state.pendingContent

/-- One of the lines is a file directive for the name. -/
def Declares (fed : List Text) (name : Text) : Prop :=
  ∃ value, Directive.file.mark ++ value ∈ fed ∧ name = Text.trim value

/-- What holds of a state that the lines `fed` have led to. -/
structure State.Consistent (fed : List Text) (state : State) : Prop where
  pending : state.block ≠ .file → state.pendingContent = []
  closed : ∀ line ∈ state.recorded, line.getLast? = some '\n'
  contents : ∀ file ∈ state.files, file.2 = [] ∨ file.2.getLast? = some '\n'
  env : ∀ entry ∈ state.env, ∃ key value, key ≠ [] ∧ '=' ∉ key ∧ entry = key ++ '=' :: value
  returnCode : state.returnCodeLine = none → state.returnCode = 0
  files : ∀ file ∈ state.files, Declares fed file.1
  /-- The open file block will be a file, too. -/
  opened : state.block = .file → Declares fed state.pendingFile

theorem Declares.mono {fed more : List Text} {name : Text} (h : Declares fed name)
    (hsub : fed ⊆ more) : Declares more name := by
  obtain ⟨value, hmem, hname⟩ := h
  exact ⟨value, hsub hmem, hname⟩

/-- Closed lines make a closed text. -/
theorem flatten_closed {lines : List Text} (h : ∀ line ∈ lines, line.getLast? = some '\n') :
    lines.flatten = [] ∨ lines.flatten.getLast? = some '\n' := by
  induction lines using List.reverseRecOn with
  | nil => exact .inl rfl
  | append_singleton lines line =>
      have hlast : line.getLast? = some '\n' := h line (by simp)
      rw [List.flatten_append, List.flatten_singleton, List.getLast?_append, hlast]
      exact .inr rfl

/-- A file opener declares its file. -/
theorem declares_of_opener? {line name : Text} (h : opener? line = some (.file name))
    {fed : List Text} (hmem : line ∈ fed) : Declares fed name := by
  unfold opener? at h
  split at h
  · cases h
  · cases h
  · cases h
  · next value hline =>
    cases h
    exact ⟨value, eq_of_classify hline ▸ hmem, rfl⟩
  · cases h

namespace State.Consistent

variable {rules : Rules} {fed : List Text} {line : Text} {lineNum : Int} {state : State}

theorem clean (fed : List Text) : Consistent fed {} := by
  constructor <;> simp [State.recorded]

theorem mono {more : List Text} (h : Consistent fed state) (hsub : fed ⊆ more) :
    Consistent more state :=
  { h with
    files := fun file hfile => (h.files file hfile).mono hsub
    opened := fun hblock => (h.opened hblock).mono hsub }

/-- The lines that are held back are closed. -/
theorem pendingContent_closed (h : Consistent fed state) :
    ∀ line ∈ state.pendingContent, line.getLast? = some '\n' :=
  fun line hline => h.closed line (List.mem_append_right _ hline)

/-- Storing the open file block keeps a state consistent, whoever asks for it. -/
theorem flushed (h : Consistent fed state) : Consistent fed state.flushed := by
  unfold State.flushed
  split
  · next hblock =>
    constructor
    case pending => exact fun _ => rfl
    case closed =>
      intro line hline
      refine h.closed line ?_
      unfold State.recorded at hline ⊢
      rw [List.append_nil] at hline
      exact List.mem_append_left _ hline
    case contents =>
      intro file hfile
      obtain rfl | hbefore := Table.of_mem_put hfile
      · exact flatten_closed h.pendingContent_closed
      · exact h.contents file hbefore
    case files =>
      intro file hfile
      obtain rfl | hbefore := Table.of_mem_put hfile
      · exact h.opened hblock
      · exact h.files file hbefore
    case env => exact h.env
    case returnCode => exact h.returnCode
    case opened => exact h.opened
  · exact h

/-- Nothing is held back once the open file block is stored. -/
theorem pendingContent_flushed (h : Consistent fed state) : state.flushed.pendingContent = [] := by
  unfold State.flushed
  split
  · rfl
  · next hblock => exact h.pending hblock

/-- A line may open a block. -/
theorem opens {opener : Opener} (h : Consistent fed state) (hmem : line ∈ fed)
    (hopen : Scheme.opener? line = some opener) :
    Consistent fed (state.opened opener lineNum) := by
  have hstored := h.flushed
  have hnone := h.pendingContent_flushed
  cases opener with
  | file name =>
      exact { hstored with
        pending := fun _ => hnone
        opened := fun _ => declares_of_opener? hopen hmem }
  | stderr | stdout | stdin =>
      exact { hstored with
        pending := fun _ => hnone
        opened := fun hblock => nomatch hblock }

/-- A closed line may be payload of the open block. -/
theorem take (h : Consistent fed state) (hclosed : line.getLast? = some '\n') :
    Consistent fed (state.take rules line) := by
  have hsubst := Placeholder.getLast?_substitute rules.root hclosed
  have hrecorded : ∀ other ∈ (state.take rules line).recorded, other.getLast? = some '\n' := by
    have hbefore := h.closed
    unfold State.recorded at hbefore ⊢
    unfold State.take
    cases state.block <;> grind
  -- Nothing but the lines of the open block changes.
  revert hrecorded
  unfold State.take
  split
  · exact fun _ => h
  · exact fun hrecorded => { h with closed := hrecorded }
  · exact fun hrecorded => { h with closed := hrecorded }
  · exact fun hrecorded => { h with closed := hrecorded }
  · next hblock =>
    exact fun hrecorded => { h with
      pending := fun hne => absurd hblock hne
      closed := hrecorded }

/-- **Step**: whatever an accepted line does keeps a state consistent. -/
theorem step {next : State} (h : Consistent fed state) (hclosed : line.getLast? = some '\n')
    (hmem : line ∈ fed) (hfed : Fed rules line lineNum state next) : Consistent fed next := by
  cases hfed with
  | opens hopen => exact h.opens hmem hopen
  | returnCode => exact { h with returnCode := fun hnone => nomatch hnone }
  | arg => exact { h with }
  | env _ hentry =>
      refine { h with env := fun entry hmem => ?_ }
      rw [List.mem_append, List.mem_singleton] at hmem
      obtain hbefore | rfl := hmem
      · exact h.env entry hbefore
      · obtain ⟨hequals, hhead⟩ := isEnvEntry_iff.mp hentry
        obtain ⟨key, value, hsplit, hkey⟩ := List.eq_append_cons_of_mem hequals
        refine ⟨key, value, ?_, hkey, hsplit⟩
        rintro rfl
        exact hhead (by rw [hsplit]; rfl)
  | unknown => exact h
  | payload => exact h.take hclosed

end State.Consistent

/-! ## What methods keep -/

namespace Method

variable {rules : Rules} {p : State → Prop}

/-- What a method answers does not matter to the state that it leaves. -/
theorem state_answering {α β : Type} (method : Method α) (answer : α → β) (state : State) :
    ((method >>= fun a => pure (answer a)) state).state = (method state).state := by
  cases hout : (method state).outcome with
  | error failure => rw [bind_error hout]
  | ok a => rw [bind_ok hout]; rfl

/-- The method leaves the property in every state that has it, where it fails, too. -/
def Keeps {α : Type} (p : State → Prop) (method : Method α) : Prop :=
  ∀ state, p state → p (method state).state

theorem Keeps.bind {α β : Type} {first : Method α} {next : α → Method β}
    (hfirst : Keeps p first) (hnext : ∀ a, Keeps p (next a)) : Keeps p (first >>= next) := by
  intro state h
  cases hout : (first state).outcome with
  | error failure => rw [bind_error hout]; exact hfirst state h
  | ok a => rw [bind_ok hout]; exact hnext a _ (hfirst state h)

/-- Of the first of two methods counts what it does in the state at hand. -/
theorem bind_congr {α β : Type} {first other : Method α} {state : State}
    (h : first state = other state) (next : α → Method β) :
    (first >>= next) state = (other >>= next) state := by
  change Method.bind first next state = Method.bind other next state
  unfold Method.bind
  rw [h]

/-- What answers without assigning keeps everything. -/
theorem keeps_pure {α : Type} (a : α) : Keeps p (pure a : Method α) := fun _ h => h

theorem keeps_current : Keeps p current := fun _ h => h

/-- A method that performs a step keeps what the step keeps. -/
theorem Performs.keeps {method : Method Unit} {step : State → Noted State}
    (h : Performs method step)
    (hstep : ∀ state next, p state → (step state).result = .ok next → p next) :
    Keeps p method := by
  intro state hstate
  rw [h state]
  unfold State.advance
  cases hresult : (step state).result with
  | ok next => exact hstep state next hstate hresult
  | error failure => exact hstate

/-- Lines that all keep a property keep it one after another. -/
theorem keeps_feedAll {lines : List Text}
    (h : ∀ line ∈ lines, ∀ lineNum, Keeps p (feed rules line lineNum)) (lineNum : Int) :
    Keeps p (feedAll rules lineNum lines) := by
  induction lines generalizing lineNum with
  | nil => exact keeps_pure ()
  | cons line rest ih =>
      rw [feedAll_cons]
      exact (h line List.mem_cons_self lineNum).bind fun _ =>
        ih (fun other hother => h other (List.mem_cons_of_mem line hother)) (lineNum + 1)

/-- **Step**: a closed line that is fed keeps a state consistent, whether it is accepted or
refused. -/
theorem keeps_feed {fed : List Text} {line : Text} (hclosed : line.getLast? = some '\n')
    (hmem : line ∈ fed) (lineNum : Int) :
    Keeps (State.Consistent fed) (feed rules line lineNum) :=
  (performs_feed line lineNum).keeps fun _ _ h hstep => h.step hclosed hmem (feed_ok hstep)

theorem keeps_flushFile {fed : List Text} : Keeps (State.Consistent fed) (flushFile rules) :=
  performs_flushFile.keeps fun _ _ h hstep => State.flushFile_ok hstep ▸ h.flushed

/-! ## Which lines are fed -/

/-- The lines that are fed when some lines are to be consumed: none behind the first that is
refused. -/
def consumed (rules : Rules) (lineNum : Int) : List Text → State → List Text
  | [], _ => []
  | line :: rest, state =>
    let fed := feed rules line lineNum state
    match fed.outcome with
    | .error _ => [line]
    | .ok () => line :: consumed rules (lineNum + 1) rest fed.state

theorem consumed_of_refused {line : Text} {lineNum : Int} {state : State} {failure : Failure}
    (h : (feed rules line lineNum state).outcome = .error failure) (rest : List Text) :
    consumed rules lineNum (line :: rest) state = [line] := by
  simp only [consumed, h]

theorem consumed_of_accepted {line : Text} {lineNum : Int} {state : State}
    (h : (feed rules line lineNum state).outcome = .ok ()) (rest : List Text) :
    consumed rules lineNum (line :: rest) state =
      line :: consumed rules (lineNum + 1) rest (feed rules line lineNum state).state := by
  simp only [consumed, h]

theorem consumed_isPrefix (lineNum : Int) (lines : List Text) (state : State) :
    consumed rules lineNum lines state <+: lines := by
  induction lines generalizing lineNum state with
  | nil => exact List.prefix_refl []
  | cons line rest ih =>
      cases hout : (feed rules line lineNum state).outcome with
      | error failure =>
          rw [consumed_of_refused hout]
          exact List.cons_prefix_cons.mpr ⟨rfl, List.nil_prefix⟩
      | ok =>
          rw [consumed_of_accepted hout]
          exact List.cons_prefix_cons.mpr ⟨rfl, ih _ _⟩

/-- To consume lines is to feed those. -/
theorem feedAll_consumed (lineNum : Int) (lines : List Text) (state : State) :
    feedAll rules lineNum (consumed rules lineNum lines state) state =
      feedAll rules lineNum lines state := by
  induction lines generalizing lineNum state with
  | nil => rfl
  | cons line rest ih =>
      cases hout : (feed rules line lineNum state).outcome with
      | error failure =>
          rw [consumed_of_refused hout, feedAll_cons, feedAll_cons, Method.bind, Method.bind]
          simp only [hout]
      | ok =>
          rw [consumed_of_accepted hout, feedAll_cons, feedAll_cons, Method.bind, Method.bind]
          simp only [hout, ih]

/-- The lines of a scheme that parsing it feeds: none if one of them is too long. -/
def parsed (rules : Rules) (scheme : Text) : List Text :=
  match linesWithin rules.maxLineSize rules.filename scheme with
  | .error _ => []
  | .ok lines => consumed rules 0 lines {}

/-- Parsing comes to a consistent state, whatever state it is called in. -/
theorem consistent_parse (scheme : Text) (state : State) :
    (parse rules scheme state).state.Consistent (parsed rules scheme) := by
  unfold parse parsed
  cases hlines : linesWithin rules.maxLineSize rules.filename scheme with
  | error fault => exact State.Consistent.clean []
  | ok lines =>
      obtain rfl := linesWithin_ok hlines
      let fed := consumed rules 0 (Text.lines scheme) {}
      have hclosed : ∀ line ∈ fed, line.getLast? = some '\n' := by
        intro line hline
        obtain ⟨body, -, rfl⟩ := List.mem_map.mp ((consumed_isPrefix 0 _ {}).subset hline)
        exact List.getLast?_concat
      -- Behind the reset there are the lines fed and the file block at the end.
      have hrest : Keeps (State.Consistent fed) (do
          feedAll rules 0 fed
          flushFile rules
          let state ← current
          pure (state.plan rules scheme)) :=
        (keeps_feedAll (fun line hline => keeps_feed (hclosed line hline) hline) 0).bind fun _ =>
          keeps_flushFile.bind fun _ => keeps_current.bind fun _ => keeps_pure _
      have hfed := hrest {} (State.Consistent.clean fed)
      rw [reset_bind]
      rwa [bind_congr (feedAll_consumed 0 (Text.lines scheme) {})] at hfed

end Method

/-! ## Histories -/

/-- The lines that a call feeds, behind those that were fed since the last reset. -/
def Call.fed (rules : Rules) (before : List Text) : Call → List Text
  | .feed line _ => before ++ [line]
  | .reset => []
  | .parse scheme => Method.parsed rules scheme
  | .follow .. | .openBlock _ | .flushFile | .remark .. => before

/-- The lines that some events have fed since the last reset. -/
def fedSince (rules : Rules) (events : List Event) : List Text :=
  events.foldl (fun before event => event.call.fed (event.rules rules) before) []

/-- A call that drives an interpreter by closed lines or whole schemes. -/
def Call.ByLine : Call → Prop
  | .feed line _ => line.getLast? = some '\n'
  | .flushFile | .reset | .parse _ => True
  | .follow .. | .openBlock _ | .remark .. => False

instance : DecidablePred Call.ByLine
  | .feed line _ => inferInstanceAs (Decidable (line.getLast? = some '\n'))
  | .flushFile | .reset | .parse _ => .isTrue trivial
  | .follow .. | .openBlock _ | .remark .. => .isFalse id

/-- **Step**: a call that drives an interpreter line by line keeps its state consistent with
the lines fed. -/
theorem consistent_left {rules : Rules} {event : Event} (hcall : event.call.ByLine)
    {fed : List Text} {state : State} (h : state.Consistent fed) :
    (event.left rules state).Consistent (event.call.fed (event.rules rules) fed) := by
  obtain ⟨call, escalate⟩ := event
  cases call with
  | feed line lineNum =>
      have hmore : state.Consistent (fed ++ [line]) := h.mono (List.subset_append_left _ _)
      have hmem : line ∈ fed ++ [line] := List.mem_append_right _ (List.mem_singleton_self line)
      rw [Event.left, Call.method, Method.silent, Method.state_answering]
      exact Method.keeps_feed hcall hmem lineNum state hmore
  | flushFile =>
      rw [Event.left, Call.method, Method.silent, Method.state_answering]
      exact Method.keeps_flushFile state h
  | reset => exact State.Consistent.clean []
  | parse scheme =>
      rw [Event.left, Call.method, Method.state_answering]
      exact Method.consistent_parse scheme state
  | follow | openBlock | remark => exact hcall.elim

/-- **Run**: after any history of closed lines, schemes, resets and stored files, with remarks
being failures at some times and not at others, the state is consistent with the lines fed
since the last reset. -/
theorem consistent_after (rules : Rules) {events : List Event}
    (h : ∀ event ∈ events, event.call.ByLine) :
    (State.after rules events {}).Consistent (fedSince rules events) := by
  induction events using List.reverseRecOn with
  | nil => exact State.Consistent.clean []
  | append_singleton events event ih =>
      have hbefore := ih fun other hother => h other (List.mem_append_left _ hother)
      unfold State.after fedSince at hbefore ⊢
      rw [List.foldl_append, List.foldl_append]
      exact consistent_left (h event (by simp)) hbefore

/-- A scheme that is given up at its fifth line since a file is declared again, an attempt to
store the file that fails, a line that is refused, and at last the file stored. -/
theorem consistent_after_interrupted :
    let rules : Rules := { root := "/r".toList, strict := true }
    let scheme := "--file: a\n1\n--file:a\n{dir}\n--stdout\n2\n--arg:3\n".toList
    let events : List Event :=
      [{ call := .feed "--stdin\n".toList 0 },
        { call := .parse scheme, escalate := true },
        { call := .flushFile, escalate := true },
        { call := .feed "--env: K={dir}\n".toList 7 },
        { call := .feed "--return-code: x\n".toList 8 },
        { call := .flushFile }]
    let fed := ["--file: a\n".toList, "1\n".toList, "--file:a\n".toList, "{dir}\n".toList,
      "--stdout\n".toList, "--env: K={dir}\n".toList, "--return-code: x\n".toList]
    let state : State :=
      { block := .file, files := [("a".toList, "/r\n".toList)], env := ["K=/r".toList]
        pendingFile := "a".toList, pendingLine := 2 }
    (∀ event ∈ events, event.call.ByLine) ∧ fedSince rules events = fed ∧
      State.after rules events {} = state ∧ state.Consistent fed := by
  intro rules scheme events fed state
  have hcalls : ∀ event ∈ events, event.call.ByLine := by decide
  have hfed : fedSince rules events = fed := by decide +kernel
  have hstate : State.after rules events {} = state := by decide +kernel
  have hconsistent := consistent_after rules hcalls
  rw [hfed, hstate] at hconsistent
  exact ⟨hcalls, hfed, hstate, hconsistent⟩

end SchemeCheck.Scheme
