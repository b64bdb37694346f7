import SchemeCheck.Proofs.Scheme.Step
import SchemeCheck.Proofs.Table

/-!
# SchemeCheck.Proofs.Scheme.Reading

A scheme read without a state.  Every payload line belongs to the nearest
opener before it; what a plan holds is then read off the lines themselves: a
stream is all payload of its openers, a file is the payload of the last opener
with its name, arguments and environment entries are the values of their
directives, and the return code is the last one.  `Reading.plan` puts this
together, and the main statement is `interpret_eq_reading`: where a scheme has
a plan, it is the one that is read.

The state keeps the open file block apart until it is stored, so the invariant
(`Reads`) is about the state as it would be if the scheme ended there.
-/

namespace SchemeCheck.Scheme

namespace Reading

/-! ## Whose payload a line is -/

/-- Whether a line is payload: it does not start as directives do. -/
def isPayload (line : Text) : Bool :=
  !directiveMark.isPrefixOf line

/-- The nearest opener before a line, told from the lines before it. -/
def nearest? (before : List Text) : Option Opener :=
  (before.filterMap opener?).getLast?

/-- The payload lines for which `p` holds of the lines before and after them.
The lines in front of `lines` are `before`. -/
def payloadWhere (p : List Text → List Text → Bool) (before : List Text) :
    List Text → List Text
  | [] => []
  | line :: after =>
    let others := payloadWhere p (before ++ [line]) after
    if isPayload line && p before after then line :: others else others

/-- The payload of every opener of a stream. -/
def streamOf (opener : Opener) (lines : List Text) : List Text :=
  payloadWhere (fun before _ => decide (nearest? before = some opener)) [] lines

/-- The payload of the last opener of a file: its lines have an opener of that
name as their nearest one, and none after them. -/
def contentOf (name : Text) (lines : List Text) : List Text :=
  payloadWhere (fun before after =>
    decide (nearest? before = some (.file name)) &&
      decide (.file name ∉ after.filterMap opener?)) [] lines

/-! ## What is read -/

/-- The name of the file that a line opens. -/
def fileName? (line : Text) : Option Text :=
  match opener? line with
  | some (.file name) => some name
  | _ => none

/-- The names of the files, in the order in which they first appear. -/
def fileNames (lines : List Text) : List Text :=
  (lines.filterMap fileName?).eraseDups

/-- The files with their contents. -/
def filesOf (root : Text) (lines : List Text) : Table Text Text :=
  (fileNames lines).map fun name =>
    (name, (contentOf name lines).flatMap (Placeholder.substitute root))

/-- The trimmed value of a line, if it is the given directive. -/
def value? (directive : Directive) (line : Text) : Option Text :=
  match classify line with
  | .directive found value => if found = directive then some (Text.trim value) else none
  | _ => none

/-- Whether a line is the given directive. -/
def isDirective (directive : Directive) (line : Text) : Bool :=
  (value? directive line).isSome

/-- The integer that a text spells, zero if it spells none. -/
def integerIn (text : Text) : Int :=
  match readInteger? text with
  | some (negative, digits) => integerOf negative digits
  | none => 0

/-- The last return code, zero if there is none. -/
def returnCodeOf (lines : List Text) : Int :=
  (((lines.filterMap (value? .returnCode)).getLast?).map integerIn).getD 0

/-- The plan that a scheme describes. -/
def plan (root scheme : Text) : Plan :=
  let lines := Text.lines scheme
  { rootDir := Path.ofText root
    files := filesOf root lines
    args := (lines.filterMap (value? .arg)).map (Placeholder.substitute root)
    env := (lines.filterMap (value? .env)).map (Placeholder.substitute root)
    stdin := (streamOf .stdin lines).flatten
    stdout := (streamOf .stdout lines).flatMap (Placeholder.substitute root)
    stderr := (streamOf .stderr lines).flatMap (Placeholder.substitute root)
    returnCode := returnCodeOf lines
    scheme := scheme }

/-! ## One more line -/

/-- A line is payload for the interpretation exactly if it is payload. -/
theorem isPayload_iff {line : Text} : isPayload line = true ↔ classify line = .payload := by
  rw [classify_eq_payload_iff, ← List.isPrefixOf_iff_prefix, isPayload, Bool.not_eq_true',
    Bool.not_eq_true]

theorem isPayload_eq_false {line : Text} (h : classify line ≠ .payload) :
    isPayload line = false := by
  rw [← Bool.not_eq_true, isPayload_iff]
  exact h

/-- The value of a line is what it has after its mark. -/
theorem value?_eq_some {directive : Directive} {line value : Text} :
    value? directive line = some value ↔
      ∃ behind, classify line = .directive directive behind ∧ Text.trim behind = value := by
  unfold value?
  cases classify line with
  | payload | unknown => simp
  | directive found behind =>
      by_cases hfound : found = directive
      · simp [hfound]
      · simp [hfound]

theorem payloadWhere_false (before lines : List Text) :
    payloadWhere (fun _ _ => false) before lines = [] := by
  induction lines generalizing before with
  | nil => rfl
  | cons line rest ih => simp [payloadWhere, ih]

theorem payloadWhere_concat (p : List Text → List Text → Bool) (before lines : List Text)
    (line : Text) :
    payloadWhere p before (lines ++ [line]) =
      payloadWhere (fun front after => p front (after ++ [line])) before lines ++
        (if isPayload line && p (before ++ lines) [] then [line] else []) := by
  induction lines generalizing before with
  | nil => simp [payloadWhere]
  | cons first rest ih =>
      simp only [List.cons_append, payloadWhere, ih, List.append_assoc, List.nil_append]
      split <;> rfl

theorem nearest?_concat (lines : List Text) (line : Text) :
    nearest? (lines ++ [line]) = (opener? line).or (nearest? lines) := by
  unfold nearest?
  rw [List.filterMap_append]
  cases h : opener? line <;> simp [h]

theorem streamOf_concat (opener : Opener) (lines : List Text) (line : Text) :
    streamOf opener (lines ++ [line]) =
      streamOf opener lines ++
        (if isPayload line && decide (nearest? lines = some opener) then [line] else []) := by
  rw [streamOf, payloadWhere_concat, List.nil_append]
  rfl

/-- A line that opens a file anew takes what belonged to it before. -/
theorem contentOf_concat (name : Text) (lines : List Text) (line : Text) :
    contentOf name (lines ++ [line]) =
      (if opener? line = some (.file name) then [] else contentOf name lines) ++
        (if isPayload line && decide (nearest? lines = some (.file name)) then [line] else []) := by
  rw [contentOf, payloadWhere_concat, List.nil_append]
  congr 1
  · split
    · next hopen => simp [List.filterMap_append, hopen, payloadWhere_false]
    · next hopen =>
      have hafter : ∀ after : List Text, (.file name ∉ (after ++ [line]).filterMap opener?) ↔
          (.file name ∉ after.filterMap opener?) := by
        intro after
        rw [List.filterMap_append, List.mem_append, not_or]
        cases h : opener? line with
        | none => simp [h]
        | some opener =>
            rw [h] at hopen
            simp [h, eq_comm] at hopen ⊢
            exact fun _ => hopen
      simp only [hafter]
      rfl
  · simp

theorem keys_filesOf (root : Text) (lines : List Text) :
    Table.keys (filesOf root lines) = fileNames lines := by
  simp [Table.keys, filesOf, Function.comp_def]

theorem fileNames_concat (lines : List Text) (line : Text) :
    fileNames (lines ++ [line]) =
      match fileName? line with
      | some name => Table.withKey name (fileNames lines)
      | none => fileNames lines := by
  unfold fileNames Table.withKey
  rw [List.filterMap_append, List.eraseDups_append]
  cases h : fileName? line with
  | none => simp [h]
  | some name =>
      simp only [List.filterMap_cons, h, List.filterMap_nil, List.mem_eraseDups]
      split <;> simp_all [List.removeAll, List.eraseDups_cons]

/-- A file has one place among the names. -/
theorem nodup_fileNames (lines : List Text) : (fileNames lines).Nodup := by
  induction lines using List.reverseRecOn with
  | nil => exact List.nodup_nil
  | append_singleton rest line ih =>
      rw [fileNames_concat]
      cases fileName? line with
      | none => exact ih
      | some name => exact Table.nodup_withKey ih name

/-- The payload that the open block holds back. -/
def heldBack (lines : List Text) : List Text :=
  match nearest? lines with
  | some (.file name) => contentOf name lines
  | _ => []

/-! ### An opener -/

/-- An opener is a directive, and none of those that give a value. -/
theorem exists_of_opener? {line : Text} {opener : Opener} (h : opener? line = some opener) :
    ∃ directive value, classify line = .directive directive value ∧
      directive ≠ .arg ∧ directive ≠ .env ∧ directive ≠ .returnCode := by
  unfold opener? at h
  split at h
  · next value hline => exact ⟨_, _, hline, by decide⟩
  · next value hline => exact ⟨_, _, hline, by decide⟩
  · next value hline => exact ⟨_, _, hline, by decide⟩
  · next value hline => exact ⟨_, _, hline, by decide⟩
  · cases h

theorem isPayload_of_opener? {line : Text} {opener : Opener} (h : opener? line = some opener) :
    isPayload line = false := by
  obtain ⟨directive, value, hline, -⟩ := exists_of_opener? h
  exact isPayload_eq_false (by simp [hline])

/-- An opener takes from a file exactly if it opens it anew. -/
theorem contentOf_opens {line : Text} {opener : Opener} (h : opener? line = some opener)
    (name : Text) (lines : List Text) :
    contentOf name (lines ++ [line]) =
      if opener = .file name then [] else contentOf name lines := by
  rw [contentOf_concat, isPayload_of_opener? h, h]
  simp

/-- An opened file is known and empty. -/
theorem filesOf_opens_file {line name : Text} (h : opener? line = some (.file name))
    (root : Text) (lines : List Text) :
    filesOf root (lines ++ [line]) = (filesOf root lines).put name [] := by
  have hname : fileName? line = some name := by simp [fileName?, h]
  rw [filesOf, fileNames_concat, hname, filesOf, Table.put_map]
  refine List.map_congr_left fun other _ => ?_
  rw [contentOf_opens h]
  by_cases hother : other = name
  · simp [hother]
  · have hne : Opener.file name ≠ .file other := fun e => hother (Opener.file.inj e).symm
    simp [hother, hne]

theorem filesOf_opens_stream {line : Text} {opener : Opener} (h : opener? line = some opener)
    (hstream : ∀ name, opener ≠ .file name) (root : Text) (lines : List Text) :
    filesOf root (lines ++ [line]) = filesOf root lines := by
  have hname : fileName? line = none := by
    unfold fileName?
    rw [h]
    cases opener with
    | file name => exact absurd rfl (hstream name)
    | stderr | stdout | stdin => rfl
  rw [filesOf, fileNames_concat, hname, filesOf]
  refine List.map_congr_left fun name _ => ?_
  rw [contentOf_opens h, if_neg (hstream name)]

/-! ### A line that is neither opener nor payload -/

theorem nearest?_quiet {line : Text} (hopen : opener? line = none) (lines : List Text) :
    nearest? (lines ++ [line]) = nearest? lines := by
  rw [nearest?_concat, hopen, Option.none_or]

theorem streamOf_quiet {line : Text} (hpayload : isPayload line = false) (opener : Opener)
    (lines : List Text) : streamOf opener (lines ++ [line]) = streamOf opener lines := by
  rw [streamOf_concat, hpayload]
  simp

theorem contentOf_quiet {line : Text} (hopen : opener? line = none)
    (hpayload : isPayload line = false) (name : Text) (lines : List Text) :
    contentOf name (lines ++ [line]) = contentOf name lines := by
  rw [contentOf_concat, hpayload, hopen]
  simp

theorem fileNames_quiet {line : Text} (hopen : opener? line = none) (lines : List Text) :
    fileNames (lines ++ [line]) = fileNames lines := by
  have hname : fileName? line = none := by simp [fileName?, hopen]
  rw [fileNames_concat, hname]

theorem filesOf_quiet {line : Text} (hopen : opener? line = none)
    (hpayload : isPayload line = false) (root : Text) (lines : List Text) :
    filesOf root (lines ++ [line]) = filesOf root lines := by
  rw [filesOf, fileNames_quiet hopen, filesOf]
  refine List.map_congr_left fun name _ => ?_
  rw [contentOf_quiet hopen hpayload]

theorem heldBack_quiet {line : Text} (hopen : opener? line = none)
    (hpayload : isPayload line = false) (lines : List Text) :
    heldBack (lines ++ [line]) = heldBack lines := by
  unfold heldBack
  rw [nearest?_quiet hopen]
  split
  · rw [contentOf_quiet hopen hpayload]
  · rfl

/-! ### A payload line -/

/-- The nearest opener has opened its file. -/
theorem mem_fileNames_of_nearest? {lines : List Text} {name : Text}
    (h : nearest? lines = some (.file name)) : name ∈ fileNames lines := by
  have hmem := List.mem_of_getLast? h
  obtain ⟨line, hline, hopen⟩ := List.mem_filterMap.mp hmem
  rw [fileNames, List.mem_eraseDups, List.mem_filterMap]
  exact ⟨line, hline, by simp [fileName?, hopen]⟩

theorem opener?_of_payload {line : Text} (h : classify line = .payload) :
    opener? line = none := by
  simp [opener?, h]

theorem streamOf_payload {line : Text} (h : classify line = .payload) (opener : Opener)
    (lines : List Text) :
    streamOf opener (lines ++ [line]) =
      if nearest? lines = some opener then streamOf opener lines ++ [line]
      else streamOf opener lines := by
  rw [streamOf_concat, isPayload_iff.mpr h]
  by_cases hnear : nearest? lines = some opener <;> simp [hnear]

theorem contentOf_payload {line : Text} (h : classify line = .payload) (name : Text)
    (lines : List Text) :
    contentOf name (lines ++ [line]) =
      if nearest? lines = some (.file name) then contentOf name lines ++ [line]
      else contentOf name lines := by
  rw [contentOf_concat, isPayload_iff.mpr h, opener?_of_payload h]
  by_cases hnear : nearest? lines = some (.file name) <;> simp [hnear]

/-- Payload of a file is put behind what the file holds. -/
theorem filesOf_payload_file {line name : Text} {lines : List Text}
    (h : classify line = .payload) (hnear : nearest? lines = some (.file name)) (root : Text) :
    filesOf root (lines ++ [line]) = (filesOf root lines).put name
      ((contentOf name lines ++ [line]).flatMap (Placeholder.substitute root)) := by
  rw [filesOf, fileNames_quiet (opener?_of_payload h), filesOf, Table.put_map, Table.withKey,
    if_pos (mem_fileNames_of_nearest? hnear)]
  refine List.map_congr_left fun other _ => ?_
  rw [contentOf_payload h, hnear]
  by_cases hother : other = name
  · simp [hother]
  · have hne : Opener.file name ≠ .file other := fun e => hother (Opener.file.inj e).symm
    simp [hother, hne]

theorem filesOf_payload_stream {line : Text} {lines : List Text} (h : classify line = .payload)
    (hnear : ∀ name, nearest? lines ≠ some (.file name)) (root : Text) :
    filesOf root (lines ++ [line]) = filesOf root lines := by
  rw [filesOf, fileNames_quiet (opener?_of_payload h), filesOf]
  refine List.map_congr_left fun other _ => ?_
  rw [contentOf_payload h, if_neg (hnear other)]

/-! ## The invariant -/

/-- What the lines so far say about the state that they lead to. -/
structure Reads (rules : Rules) (lines : List Text) (state : State) : Prop where
  args : state.args =
    (lines.filterMap (value? .arg)).map (Placeholder.substitute rules.root)
  env : state.env =
    (lines.filterMap (value? .env)).map (Placeholder.substitute rules.root)
  returnCode : state.returnCode = returnCodeOf lines
  stdin : state.stdin = streamOf .stdin lines
  stdout : state.stdout = (streamOf .stdout lines).map (Placeholder.substitute rules.root)
  stderr : state.stderr = (streamOf .stderr lines).map (Placeholder.substitute rules.root)
  opener : state.opener? = nearest? lines
  pending : state.pendingContent =
    (heldBack lines).map (Placeholder.substitute rules.root)
  files : state.flushed.files = filesOf rules.root lines

namespace Reads

variable {rules : Rules} {lines : List Text} {line : Text} {lineNum : Int} {state : State}

/-- A clean start has read nothing. -/
theorem start (rules : Rules) : Reads rules [] {} := by
  constructor <;> rfl

/-- A stored file block holds nothing back. -/
theorem pendingContent_flushed (h : Reads rules lines state) :
    state.flushed.pendingContent = [] := by
  unfold State.flushed
  split
  · rfl
  · next hblock =>
    have hopener := h.opener
    rw [h.pending, heldBack, ← hopener]
    unfold State.opener?
    cases hb : state.block <;> simp_all

/-- Opening a block keeps what has been read, and makes the file known. -/
theorem opens {opener : Opener} (h : Reads rules lines state)
    (hopen : Scheme.opener? line = some opener) :
    Reads rules (lines ++ [line]) (state.opened opener lineNum) := by
  obtain ⟨directive, value, hline, harg, henv, hcode⟩ := exists_of_opener? hopen
  have hvalues : ∀ other, directive ≠ other →
      (lines ++ [line]).filterMap (value? other) = lines.filterMap (value? other) := by
    intro other hne
    have hnone : value? other line = none := by simp [value?, hline, hne]
    simp [List.filterMap_append, hnone]
  have hstream := fun other => streamOf_quiet (isPayload_of_opener? hopen) other lines
  have hnear : nearest? (lines ++ [line]) = some opener := by
    rw [nearest?_concat, hopen, Option.some_or]
  constructor
  case args => rw [State.args_opened, h.args, hvalues _ harg]
  case env => rw [State.env_opened, h.env, hvalues _ henv]
  case returnCode =>
      rw [State.returnCode_opened, h.returnCode, returnCodeOf, returnCodeOf, hvalues _ hcode]
  case stdin => rw [State.stdin_opened, h.stdin, hstream]
  case stdout => rw [State.stdout_opened, h.stdout, hstream]
  case stderr => rw [State.stderr_opened, h.stderr, hstream]
  case opener => rw [State.opener?_opened, hnear]
  case pending =>
      rw [State.pendingContent_opened, h.pendingContent_flushed, heldBack, hnear]
      cases opener with
      | file name => simp [contentOf_opens hopen]
      | stderr | stdout | stdin => rfl
  case files =>
      cases opener with
      | file name =>
          have hstored : (state.opened (.file name) lineNum).flushed.files =
              state.flushed.files.put name state.flushed.pendingContent.flatten := rfl
          rw [filesOf_opens_file hopen, ← h.files, hstored, h.pendingContent_flushed,
            List.flatten_nil]
      | stderr | stdout | stdin =>
          rw [filesOf_opens_stream hopen (by exact nofun), ← h.files]
          rfl

/-- A line that is neither opener nor payload changes the scalars only. -/
theorem quiet {next : State} (h : Reads rules lines state) (hopen : Scheme.opener? line = none)
    (hpayload : isPayload line = false)
    (hnext : next = { state with
      args := next.args, env := next.env
      returnCode := next.returnCode, returnCodeLine := next.returnCodeLine })
    (hargs : next.args = state.args ++
      ((value? .arg line).map (Placeholder.substitute rules.root)).toList)
    (henv : next.env = state.env ++
      ((value? .env line).map (Placeholder.substitute rules.root)).toList)
    (hcode : next.returnCode = ((value? .returnCode line).map integerIn).getD state.returnCode) :
    Reads rules (lines ++ [line]) next := by
  have hvalues : ∀ other, (lines ++ [line]).filterMap (value? other) =
      lines.filterMap (value? other) ++ (value? other line).toList := by
    intro other
    cases hvalue : value? other line <;> simp [List.filterMap_append, hvalue]
  have hstream := fun other => streamOf_quiet hpayload other lines
  have hfiles : next.flushed.files = state.flushed.files := by
    rw [hnext]
    unfold State.flushed
    split <;> rfl
  constructor
  case args => rw [hargs, h.args, hvalues, List.map_append]; cases value? .arg line <;> rfl
  case env => rw [henv, h.env, hvalues, List.map_append]; cases value? .env line <;> rfl
  case returnCode =>
      rw [hcode, h.returnCode, returnCodeOf, returnCodeOf, hvalues]
      cases value? .returnCode line <;> simp
  case stdin => rw [hnext, hstream]; exact h.stdin
  case stdout => rw [hnext, hstream]; exact h.stdout
  case stderr => rw [hnext, hstream]; exact h.stderr
  case opener => rw [hnext, nearest?_quiet hopen]; exact h.opener
  case pending => rw [hnext, heldBack_quiet hopen hpayload]; exact h.pending
  case files => rw [hfiles, filesOf_quiet hopen hpayload]; exact h.files

/-- Payload goes to the open block, which is that of the nearest opener. -/
theorem payload (h : Reads rules lines state) (hline : classify line = .payload) :
    Reads rules (lines ++ [line]) (state.take rules line) := by
  have hopen := opener?_of_payload hline
  have hvalues : ∀ other, (lines ++ [line]).filterMap (value? other) =
      lines.filterMap (value? other) := by
    intro other
    simp [List.filterMap_append, value?, hline]
  have hstream := fun opener => streamOf_payload hline opener lines
  constructor
  case args => rw [State.args_take, h.args, hvalues]
  case env => rw [State.env_take, h.env, hvalues]
  case returnCode =>
      rw [State.returnCode_take, h.returnCode, returnCodeOf, returnCodeOf, hvalues]
  case stdin => rw [State.stdin_take, h.opener, h.stdin, hstream]
  case stdout =>
      rw [State.stdout_take, h.opener, h.stdout, hstream]
      split <;> simp
  case stderr =>
      rw [State.stderr_take, h.opener, h.stderr, hstream]
      split <;> simp
  case opener => rw [State.opener?_take, h.opener, nearest?_quiet hopen]
  case pending =>
      rw [State.pendingContent_take, h.opener, h.pending, heldBack, heldBack,
        nearest?_quiet hopen]
      cases hnear : nearest? lines with
      | none => rfl
      | some opener =>
          cases opener with
          | file name => simp [contentOf_payload hline, hnear]
          | stderr | stdout | stdin => rfl
  case files =>
      rw [State.files_flushed_take, h.opener, h.pending, h.files, heldBack]
      cases hnear : nearest? lines with
      | none => simp [filesOf_payload_stream hline, hnear]
      | some opener =>
          cases opener with
          | file name => simp [filesOf_payload_file hline hnear, List.flatMap_def]
          | stderr | stdout | stdin => simp [filesOf_payload_stream hline, hnear]

end Reads

/-- **The invariant holds of every run.** -/
theorem reads_of_ran {rules : Rules} {lines : List Text} {state : State}
    (h : Ran rules lines state) : Reads rules lines state := by
  induction h with
  | start => exact Reads.start rules
  | line _ hfed ih =>
      cases hfed with
      | opens hopen => exact ih.opens hopen
      | returnCode hline hread =>
          refine ih.quiet (by simp [opener?, hline]) (isPayload_eq_false (by simp [hline])) rfl
            ?_ ?_ ?_ <;> simp [value?, hline, integerIn, hread]
      | arg hline =>
          refine ih.quiet (by simp [opener?, hline]) (isPayload_eq_false (by simp [hline])) rfl
            ?_ ?_ ?_ <;> simp [value?, hline]
      | env hline _ =>
          refine ih.quiet (by simp [opener?, hline]) (isPayload_eq_false (by simp [hline])) rfl
            ?_ ?_ ?_ <;> simp [value?, hline]
      | unknown hline =>
          refine ih.quiet (by simp [opener?, hline]) (isPayload_eq_false (by simp [hline])) rfl
            ?_ ?_ ?_ <;> simp [value?, hline]
      | payload hline => exact ih.payload hline

/-- What lines say about the state that they lead to is what its plan says. -/
theorem plan_flushed {rules : Rules} {scheme : Text} {state : State}
    (h : Reads rules (Text.lines scheme) state) :
    state.flushed.plan rules scheme = Reading.plan rules.root scheme := by
  simp only [State.plan, Reading.plan, State.args_flushed, State.env_flushed,
    State.stdin_flushed, State.stdout_flushed, State.stderr_flushed, State.returnCode_flushed,
    h.args, h.env, h.stdin, h.stdout, h.stderr, h.returnCode, h.files, List.flatMap_def]

end Reading

/-- **A scheme that has a plan has the plan that is read off its lines.** -/
theorem interpret_eq_reading {rules : Rules} {scheme : Text} {plan : Plan}
    (h : (interpret rules scheme).outcome = .ok plan) :
    plan = Reading.plan rules.root scheme := by
  obtain ⟨state, hran, rfl⟩ := interpret_ok h
  have hread := Reading.reads_of_ran hran
  simp only [State.plan, Reading.plan, State.args_flushed, State.env_flushed,
    State.stdin_flushed, State.stdout_flushed, State.stderr_flushed, State.returnCode_flushed,
    hread.args, hread.env, hread.stdin, hread.stdout, hread.stderr, hread.returnCode, hread.files,
    List.flatMap_def]

/-- A file opened twice, with values between the lines of blocks. -/
theorem interpret_eq_reading_interleaved :
    let scheme := ("--file: a\nold\n--return-code: 7\n--stdout\none\n--arg: {dir}\ntwo\n" ++
      "--file:b\n--other\nb\n--file:a \nnew\n--return-code: 3").toList
    let plan : Plan :=
      { rootDir := Path.ofText "/r".toList
        files := [("a".toList, "new\n".toList), ("b".toList, "b\n".toList)]
        args := ["/r".toList], env := [], stdin := []
        stdout := "one\ntwo\n".toList, stderr := [], returnCode := 3, scheme := scheme }
    (interpret { root := "/r".toList } scheme).outcome = .ok plan ∧
      plan = Reading.plan "/r".toList scheme := by
  intro scheme plan
  have hplan : (interpret { root := "/r".toList } scheme).outcome = .ok plan := by
    decide +kernel
  exact ⟨hplan, interpret_eq_reading hplan⟩

end SchemeCheck.Scheme
