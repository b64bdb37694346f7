import Mathlib.Data.List.Basic
import SchemeCheck.Proofs.Scheme.Exchange

/-!
# SchemeCheck.Proofs.Scheme.Remarks

What strict mode remarks on.  `Reading.remarks` tells the remarks of a scheme
from its lines, one line after another: an unknown directive, a file that a line
before has opened, a return code after another one.  A run makes these remarks
and no others, but it makes that about a file late, when the block of the file is
closed (`Reading.madeAt`).  The invariant (`Remarked`) therefore counts the
remark that the open block is going to make among those that are made; the main
statement is `interpret_strict`.
-/

namespace SchemeCheck.Scheme

/-! ## The remarks of a scheme -/

namespace Reading

/-- The remark that a line gives rise to, told from the lines before it. -/
def remark? (before : List Text) (line : Text) : Option Remark :=
  match classify line with
  | .unknown => some (.unknownDirective (Text.trim line))
  | .directive .file value =>
    if Text.trim value ∈ fileNames before then some (.repeatedFile (Text.trim value)) else none
  | .directive .returnCode _ =>
    if before.any (isDirective .returnCode) then some .repeatedReturnCode else none
  | _ => none

/-- The remarks of a scheme, each with the number of its line, in the order of
the lines. -/
def remarks (lines : List Text) : List (Remark × Int) :=
  lines.zipIdx.filterMap fun entry =>
    (remark? (lines.take entry.2) entry.1).map fun about => (about, (entry.2 : Int))

/-- The line that closes the block which the `n`-th line opens: the next opener,
or the end of the scheme. -/
def closedAt (lines : List Text) (n : Nat) : Nat :=
  n + 1 + (lines.drop (n + 1)).findIdx fun line => (opener? line).isSome

/-- The line at which a remark is made: that about a file where its block is
closed, every other one at its own line. -/
def madeAt (lines : List Text) (about : Remark × Int) : Nat :=
  match about.1 with
  | .repeatedFile _ => closedAt lines about.2.toNat
  | _ => about.2.toNat

/-! ### One more line -/

theorem remarks_concat (lines : List Text) (line : Text) :
    remarks (lines ++ [line]) =
      remarks lines ++
        ((remark? lines line).map fun about => (about, (lines.length : Int))).toList := by
  rw [remarks, List.zipIdx_append, List.filterMap_append]
  congr 1
  · refine List.filterMap_congr fun entry hentry => ?_
    have hlt : entry.2 < lines.length := by
      simpa using (List.mem_zipIdx hentry).2.1
    rw [List.take_append_of_le_length (Nat.le_of_lt hlt)]
  · cases h : remark? lines line <;> simp [h]

/-- A block that is closed stays closed there; an open one is closed by an opener
and by nothing else. -/
theorem closedAt_concat {lines : List Text} {n : Nat} (hn : n < lines.length) (line : Text) :
    closedAt (lines ++ [line]) n =
      if closedAt lines n < lines.length ∨ (opener? line).isSome = true then closedAt lines n
      else lines.length + 1 := by
  have hdrop : (lines ++ [line]).drop (n + 1) = lines.drop (n + 1) ++ [line] :=
    List.drop_append_of_le_length hn
  have hlength : (lines.drop (n + 1)).length = lines.length - (n + 1) := List.length_drop
  have hle : (lines.drop (n + 1)).findIdx (fun line => (opener? line).isSome) ≤
      (lines.drop (n + 1)).length := List.findIdx_le_length
  rw [closedAt, closedAt, hdrop, List.findIdx_append, List.findIdx_singleton]
  generalize (lines.drop (n + 1)).findIdx (fun line => (opener? line).isSome) = index at hle ⊢
  rw [hlength] at hle ⊢
  by_cases hclosed : index < lines.length - (n + 1)
  · rw [if_pos hclosed, if_pos (.inl (by omega))]
  · have hopen : ¬ n + 1 + index < lines.length := by omega
    rw [if_neg hclosed]
    cases (opener? line).isSome with
    | true => simp; omega
    | false => simp [hopen]; omega

theorem madeAt_concat_of_lt {lines : List Text} {about : Remark × Int}
    (h : madeAt lines about < lines.length) (line : Text) :
    madeAt (lines ++ [line]) about = madeAt lines about := by
  unfold madeAt at h ⊢
  split at h
  · have hn : about.2.toNat < lines.length := by
      unfold closedAt at h
      omega
    rw [closedAt_concat hn, if_pos (.inl h)]
  · rfl

/-- An opener is where the open block is closed. -/
theorem madeAt_concat_of_opener {lines : List Text} {line : Text} {about : Remark × Int}
    (h : madeAt lines about = lines.length) (hopen : (opener? line).isSome = true) :
    madeAt (lines ++ [line]) about = lines.length := by
  unfold madeAt at h ⊢
  split at h
  · have hn : about.2.toNat < lines.length := by
      unfold closedAt at h
      omega
    rw [closedAt_concat hn, if_pos (.inr hopen), h]
  · exact h

/-- Only an opener can give rise to a remark about a file. -/
theorem madeAt_of_quiet {before : List Text} {line : Text} {about : Remark}
    (hopen : opener? line = none) (h : remark? before line = some about) (lines : List Text)
    (n : Nat) : madeAt lines (about, (n : Int)) = n := by
  unfold remark? at h
  unfold opener? at hopen
  split at h
  · cases h
    rfl
  · next hline => simp [hline] at hopen
  · split at h
    · cases h
      rfl
    · cases h
  · cases h

end Reading

/-! ## The invariant -/

/-- The lines so far lead to a state that has made the given remarks: with the
remark that its open block is going to make they are the remarks of the lines. -/
structure Remarked (lines : List Text) (state : State) (made : List (Remark × Int)) : Prop where
  returnCode : state.returnCodeLine.isSome = lines.any (Reading.isDirective .returnCode)
  /-- An open file block has its line, and no line has closed it. -/
  openFile : state.block = .file →
    ∃ n : Nat, state.pendingLine = n ∧ n < lines.length ∧
      Reading.closedAt lines n = lines.length
  all : (made ++ state.storeRemark?.toList).Perm (Reading.remarks lines)
  before : ∀ about ∈ made, Reading.madeAt lines about < lines.length
  order : made.Pairwise fun first second =>
    Reading.madeAt lines first < Reading.madeAt lines second

section Opener

variable {rules : Rules} {lines : List Text} {line : Text} {state : State} {opener : Opener}

theorem next_of_opener? (hopen : opener? line = some opener) (rules : Rules)
    (lineNum : Int) (state : State) :
    state.next rules line lineNum = state.opened opener lineNum := by
  unfold opener? at hopen
  unfold State.next
  split at hopen <;> simp_all

theorem remark?_of_opener? (hopen : opener? line = some opener) (lineNum : Int)
    (state : State) : state.remark? line lineNum = state.storeRemark? := by
  unfold opener? at hopen
  unfold State.remark?
  split at hopen <;> simp_all

theorem storeRemark?_take (rules : Rules) (line : Text) (state : State) :
    (state.take rules line).storeRemark? = state.storeRemark? := by
  unfold State.storeRemark? State.take
  cases hblock : state.block <;> simp [hblock]

/-- A line that is no opener leaves the open block and its remark alone. -/
theorem next_of_quiet (hopen : opener? line = none) (rules : Rules) (lineNum : Int)
    (state : State) :
    (state.next rules line lineNum).block = state.block ∧
      (state.next rules line lineNum).storeRemark? = state.storeRemark? ∧
      (state.next rules line lineNum).pendingLine = state.pendingLine ∧
      (state.next rules line lineNum).returnCodeLine.isSome =
        (state.returnCodeLine.isSome || Reading.isDirective .returnCode line) := by
  unfold opener? at hopen
  unfold State.next Reading.isDirective Reading.value?
  cases hline : classify line with
  | unknown => simp
  | payload => simp [storeRemark?_take]
  | directive directive value =>
      cases directive with
      | stderr | stdout | stdin | file => simp [hline] at hopen
      | arg | env | returnCode => simp [State.storeRemark?]

/-- What a line that is no opener gives rise to is told from the lines before it. -/
theorem remark?_of_quiet
    (hcode : state.returnCodeLine.isSome = lines.any (Reading.isDirective .returnCode))
    (hopen : opener? line = none) {lineNum : Int}
    (hrefusal : refusal? rules state.block line lineNum = none) :
    state.remark? line lineNum =
      (Reading.remark? lines line).map fun about => (about, lineNum) := by
  unfold State.remark? Reading.remark?
  rw [hcode]
  unfold opener? at hopen
  unfold refusal? at hrefusal
  cases hline : classify line with
  | payload | unknown => rfl
  | directive directive value =>
      cases directive with
      | stderr | stdout | stdin | file => simp [hline] at hopen
      | arg | env => rfl
      | returnCode =>
          cases hread : readInteger? (Text.trim value) with
          | none => simp [hline, hread] at hrefusal
          | some found =>
              dsimp only
              split <;> simp_all

/-- The block that is opened is going to make the remark of its opener. -/
theorem storeRemark?_opened (hread : Reading.Reads rules lines state)
    (hopen : opener? line = some opener) (lineNum : Int) :
    (state.opened opener lineNum).storeRemark? =
      (Reading.remark? lines line).map fun about => (about, lineNum) := by
  have hknown : ∀ name,
      state.flushed.files.has name = true ↔ name ∈ Reading.fileNames lines := by
    intro name
    rw [Table.has_iff, hread.files, Reading.keys_filesOf]
  unfold opener? at hopen
  unfold Reading.remark?
  split at hopen
  · next hline => cases hopen; simp [hline, State.opened, State.storeRemark?]
  · next hline => cases hopen; simp [hline, State.opened, State.storeRemark?]
  · next hline => cases hopen; simp [hline, State.opened, State.storeRemark?]
  · next hline =>
    cases hopen
    simp only [hline, State.opened, State.storeRemark?, hknown]
    split <;> simp_all
  · cases hopen

end Opener

namespace Remarked

variable {rules : Rules} {lines : List Text} {line : Text} {state next : State}
  {made : List (Remark × Int)}

theorem start : Remarked [] {} [] where
  returnCode := rfl
  openFile := nofun
  all := .refl []
  before := nofun
  order := .nil

/-- The remark that the open block is going to make is made where it is closed. -/
theorem madeAt_storeRemark? (h : Remarked lines state made) {about : Remark × Int}
    (habout : about ∈ state.storeRemark?) : Reading.madeAt lines about = lines.length := by
  unfold State.storeRemark? at habout
  split at habout
  · next hfile =>
    obtain ⟨n, hn, -, hclosed⟩ := h.openFile hfile.1
    cases habout
    simp only [Reading.madeAt, hn, Int.toNat_natCast, hclosed]
  · cases habout

/-- A remark that is made at the line that is added comes last. -/
theorem extend {new : Option (Remark × Int)} (h : Remarked lines state made)
    (hnew : ∀ about ∈ new, Reading.madeAt (lines ++ [line]) about = lines.length) :
    (∀ about ∈ made ++ new.toList,
      Reading.madeAt (lines ++ [line]) about < (lines ++ [line]).length) ∧
    (made ++ new.toList).Pairwise fun first second =>
      Reading.madeAt (lines ++ [line]) first < Reading.madeAt (lines ++ [line]) second := by
  have hmade : ∀ about ∈ made, Reading.madeAt (lines ++ [line]) about < lines.length := by
    intro about habout
    have hbefore := h.before about habout
    rwa [Reading.madeAt_concat_of_lt hbefore]
  constructor
  · intro about habout
    rw [List.length_append, List.length_singleton]
    obtain hm | hm := List.mem_append.mp habout
    · exact Nat.lt_succ_of_lt (hmade about hm)
    · rw [hnew about (Option.mem_toList.mp hm)]
      exact Nat.lt_succ_self _
  · refine List.pairwise_append.mpr ⟨?_, ?_, ?_⟩
    · refine h.order.imp_of_mem fun hfirst hsecond hlt => ?_
      rwa [Reading.madeAt_concat_of_lt (h.before _ hfirst),
        Reading.madeAt_concat_of_lt (h.before _ hsecond)]
    · cases new <;> simp
    · intro first hfirst second hsecond
      rw [hnew second (Option.mem_toList.mp hsecond)]
      exact hmade first hfirst

/-- An opener makes the remark of the block that it closes; the one about itself
is put off. -/
theorem opens {opener : Opener} (h : Remarked lines state made)
    (hread : Reading.Reads rules lines state) (hopen : opener? line = some opener) :
    Remarked (lines ++ [line]) (state.opened opener lines.length)
      (made ++ state.storeRemark?.toList) := by
  have hisSome : (opener? line).isSome = true := by rw [hopen]; rfl
  have hextend := h.extend fun about habout =>
    Reading.madeAt_concat_of_opener (h.madeAt_storeRemark? habout) hisSome
  constructor
  case returnCode =>
      have hvalue : Reading.isDirective .returnCode line = false := by
        obtain ⟨directive, value, hline, -, -, hcode⟩ := Reading.exists_of_opener? hopen
        simp [Reading.isDirective, Reading.value?, hline, hcode]
      rw [State.returnCodeLine_opened, h.returnCode, List.any_append]
      simp [hvalue]
  case openFile =>
      intro hblock
      refine ⟨lines.length, ?_, by simp, by simp [Reading.closedAt]⟩
      cases opener with
      | file name => rfl
      | stderr | stdout | stdin => cases hblock
  case all =>
      rw [Reading.remarks_concat, storeRemark?_opened hread hopen]
      exact h.all.append_right _
  case before => exact hextend.1
  case order => exact hextend.2

/-- Another line makes its remark itself. -/
theorem quiet (h : Remarked lines state made) (hopen : opener? line = none)
    (hblock : next.block = state.block) (hstore : next.storeRemark? = state.storeRemark?)
    (hpending : next.pendingLine = state.pendingLine)
    (hcode : next.returnCodeLine.isSome =
      (state.returnCodeLine.isSome || Reading.isDirective .returnCode line)) :
    Remarked (lines ++ [line]) next
      (made ++ ((Reading.remark? lines line).map fun about =>
        (about, (lines.length : Int))).toList) := by
  have hnew : ∀ about ∈ (Reading.remark? lines line).map fun own => (own, (lines.length : Int)),
      Reading.madeAt (lines ++ [line]) about = lines.length := by
    intro about habout
    obtain ⟨own, hown, rfl⟩ := Option.map_eq_some_iff.mp habout
    exact Reading.madeAt_of_quiet hopen hown (lines ++ [line]) lines.length
  have hextend := h.extend hnew
  constructor
  case returnCode =>
      rw [hcode, h.returnCode, List.any_append]
      simp
  case openFile =>
      intro hfile
      obtain ⟨n, hn, hlt, hclosed⟩ := h.openFile (hblock ▸ hfile)
      refine ⟨n, by rw [hpending, hn], ?_, ?_⟩
      · rw [List.length_append]
        exact Nat.lt_add_right 1 hlt
      · rw [Reading.closedAt_concat hlt, if_neg (by simp [hclosed, hopen]), List.length_append,
          List.length_singleton]
  case all =>
      rw [Reading.remarks_concat, hstore, List.append_assoc]
      refine (List.perm_append_comm.append_left made).trans ?_
      rw [← List.append_assoc]
      exact h.all.append_right _
  case before => exact hextend.1
  case order => exact hextend.2

/-- **Step**: a line that is not refused makes the remark that is told from the
lines, or that of the block that it closes. -/
theorem step (h : Remarked lines state made) (hread : Reading.Reads rules lines state)
    (hrefusal : refusal? rules state.block line lines.length = none) :
    Remarked (lines ++ [line]) (state.next rules line lines.length)
      (made ++ (state.remark? line lines.length).toList) := by
  cases hopen : opener? line with
  | some opener =>
      rw [next_of_opener? hopen, remark?_of_opener? hopen]
      exact h.opens hread hopen
  | none =>
      have hremark : state.remark? line lines.length =
          (Reading.remark? lines line).map fun about => (about, (lines.length : Int)) :=
        remark?_of_quiet h.returnCode hopen hrefusal
      obtain ⟨hblock, hstore, hpending, hcode⟩ := next_of_quiet hopen rules lines.length state
      rw [hremark]
      exact h.quiet hopen hblock hstore hpending hcode

end Remarked

/-! ## All lines -/

/-- A remark as it is recorded. -/
def warningOf (filename : Option Text) (about : Remark × Int) : Warning :=
  { remark := about.1, lineNum := about.2, filename := filename }

theorem warnings_advance (state : State) (warnings : List Warning) (step : Noted State) :
    (state.advance warnings step).warnings = warnings ++ step.warnings := by
  unfold State.advance
  cases step.result <;> rfl

section Recorded

variable {rules : Rules} (hrecorded : rules.escalate = false)
include hrecorded

/-- **Run**: lines of which none is refused lead to a state that has recorded
their remarks. -/
theorem remarked_of_accepted (hstrict : rules.strict = true) {lines : List Text}
    (h : firstRefusal? rules .none 0 lines = none) :
    ∃ made,
      (feedFrom rules 0 lines { state := {}, warnings := [], outcome := .ok () }).warnings =
        made.map (warningOf rules.filename) ∧
      Remarked lines
        (feedFrom rules 0 lines { state := {}, warnings := [], outcome := .ok () }).state made := by
  induction lines using List.reverseRecOn with
  | nil => exact ⟨[], rfl, .start⟩
  | append_singleton lines line ih =>
      rw [firstRefusal?_append, Option.or_eq_none_iff] at h
      obtain ⟨hlines, hline⟩ := h
      obtain ⟨made, hmade, hremarked⟩ := ih hlines
      have hok := outcome_feedFrom_of_accepted hrecorded hlines
      have hread := Reading.reads_of_ran (ran_of_feedFrom_ok hok)
      rw [firstRefusal?, Option.or_eq_none_iff] at hline
      rw [feedFrom_append, Int.zero_add]
      generalize feedFrom rules 0 lines { state := {}, warnings := [], outcome := .ok () } =
        progress at hmade hremarked hok hread ⊢
      have hrefusal : refusal? rules progress.state.block line lines.length = none :=
        (refusal?_eq_none_congr rules line _ _ _ _).mp hline.1
      rw [feedFrom_cons_of_accepted hrecorded hok hrefusal]
      refine ⟨_, ?_, hremarked.step hread hrefusal⟩
      rw [List.map_append, ← hmade]
      simp [feedFrom, recorded, hstrict, warningOf]

/-- What a line records does not depend on whether it is refused. -/
theorem warnings_feed (line : Text) (lineNum : Int) (state : State) :
    (state.feed rules line lineNum).warnings = recorded rules (state.remark? line lineNum) := by
  rw [feed_eq, noting_recorded hrecorded]
  cases refusal? rules state.block line lineNum <;> simp [Noted.fail]

/-- Without strict mode lines record nothing. -/
theorem warnings_feedFrom_relaxed (hrelaxed : rules.strict = false) (lineNum : Int)
    (lines : List Text) (progress : Progress Unit) (h : progress.warnings = []) :
    (feedFrom rules lineNum lines progress).warnings = [] := by
  induction lines generalizing lineNum progress with
  | nil => exact h
  | cons line rest ih =>
      rw [feedFrom]
      split
      · exact h
      · refine ih (lineNum + 1) _ ?_
        rw [warnings_advance, warnings_feed hrecorded, h]
        simp [recorded, hrelaxed]

/-- Without strict mode a scheme records nothing. -/
theorem warnings_interpret_relaxed (hrelaxed : rules.strict = false) (scheme : Text) :
    (interpret rules scheme).warnings = [] := by
  unfold interpret
  cases linesWithin rules.maxLineSize rules.filename scheme with
  | error fault => rfl
  | ok lines =>
      have hfed := warnings_feedFrom_relaxed hrecorded hrelaxed 0 lines
        { state := {}, warnings := [], outcome := .ok () } rfl
      dsimp only
      split
      · exact hfed
      · rw [warnings_advance, hfed, flushFile_eq, noting_recorded hrecorded]
        simp [recorded, hrelaxed]

end Recorded

/-- The full text of a remark names its line, counted from one. -/
theorem text_of_lineNum {warning : Warning} {n : Nat} (h : warning.lineNum = n) :
    ∃ place, warning.text =
      warning.remark.message ++ place ++ ", line ".toList ++ Text.ofNat (n + 1) ++ ['\n'] := by
  have hshown : (Diagnostic.LineNumber.whole warning.lineNum).shown = Text.ofNat (n + 1) := by
    have hnonneg : ¬ ((n : Int) + 1 < 0) := by omega
    rw [Diagnostic.LineNumber.shown, h, Text.ofInt, if_neg hnonneg]
    rfl
  refine ⟨'\n' :: (Text.spaces 4 ++ "in \"".toList ++
    (if (warning.filename.getD []).isEmpty then Diagnostic.unnamed
     else warning.filename.getD []) ++ ['"']), ?_⟩
  simp [Warning.text, Diagnostic.format, Diagnostic.trailer, Diagnostic.locationText,
    Diagnostic.snippetText, Diagnostic.schemeText, hshown]

/-- The number of a remark is that of its line. -/
theorem exists_of_mem_remarks {lines : List Text} {about : Remark × Int}
    (h : about ∈ Reading.remarks lines) : ∃ n : Nat, about.2 = n := by
  obtain ⟨entry, -, hentry⟩ := List.mem_filterMap.mp h
  obtain ⟨own, -, rfl⟩ := Option.map_eq_some_iff.mp hentry
  exact ⟨entry.2, rfl⟩

theorem firstRefusal?_strict (rules : Rules) (strict : Bool) (block : Block) (lineNum : Int)
    (lines : List Text) :
    firstRefusal? { rules with strict := strict } block lineNum lines =
      firstRefusal? rules block lineNum lines := by
  induction lines generalizing block lineNum with
  | nil => rfl
  | cons line rest ih =>
      rw [firstRefusal?, firstRefusal?, ih]
      rfl

/-- **Strict mode** changes what is recorded and nothing else.  Without it nothing
is; with it a scheme that has a plan has recorded its remarks, each once, with
the number of its line, in the order in which the lines make them. -/
theorem interpret_strict {rules : Rules} (hrecorded : rules.escalate = false) (scheme : Text) :
    (interpret { rules with strict := true } scheme).outcome =
        (interpret { rules with strict := false } scheme).outcome ∧
      (interpret { rules with strict := false } scheme).warnings = [] ∧
      ∀ plan, (interpret { rules with strict := true } scheme).outcome = .ok plan →
        ∃ made : List (Remark × Int),
          (interpret { rules with strict := true } scheme).warnings =
            made.map (warningOf rules.filename) ∧
          made.Perm (Reading.remarks (Text.lines scheme)) ∧
          (made.Pairwise fun first second =>
            Reading.madeAt (Text.lines scheme) first <
              Reading.madeAt (Text.lines scheme) second) ∧
          ∀ about ∈ made, ∃ (n : Nat) (place : Text), about.2 = n ∧
            (warningOf rules.filename about).text =
              about.1.message ++ place ++ ", line ".toList ++ Text.ofNat (n + 1) ++ ['\n'] := by
  have hstrict : Rules.escalate { rules with strict := true } = false := hrecorded
  have hrelaxed : Rules.escalate { rules with strict := false } = false := hrecorded
  refine ⟨?_, warnings_interpret_relaxed hrelaxed rfl scheme, fun plan hplan => ?_⟩
  · rw [outcome_interpret hstrict, outcome_interpret hrelaxed]
    simp only [firstRefusal?_strict]
  · obtain ⟨hlines, hrefusal, -⟩ := (interpret_eq_ok_iff hstrict).mp hplan
    obtain ⟨made, hmade, hremarked⟩ := remarked_of_accepted hstrict rfl hrefusal
    rw [warnings_interpret hstrict hlines hrefusal]
    generalize feedFrom { rules with strict := true } 0 (Text.lines scheme)
      { state := {}, warnings := [], outcome := .ok () } = fed at hmade hremarked ⊢
    refine ⟨made ++ fed.state.storeRemark?.toList, ?_, hremarked.all, ?_, ?_⟩
    · dsimp only
      rw [hmade, List.map_append]
      rfl
    · refine List.pairwise_append.mpr ⟨hremarked.order, ?_, ?_⟩
      · cases fed.state.storeRemark? <;> simp
      · intro first hfirst second hsecond
        rw [hremarked.madeAt_storeRemark? (Option.mem_toList.mp hsecond)]
        exact hremarked.before first hfirst
    · intro about habout
      obtain ⟨n, hn⟩ := exists_of_mem_remarks (hremarked.all.mem_iff.mp habout)
      obtain ⟨place, hplace⟩ :=
        @text_of_lineNum (warningOf rules.filename about) n hn
      exact ⟨n, place, hn, hplace⟩

/-- A file that is opened three times, its name equal only after trimming, with
return codes and an unknown directive between: the file is remarked on where its
blocks are closed, the other lines at once. -/
theorem interpret_strict_reopened :
    let rules : Rules := { root := "/r".toList, filename := some "f".toList }
    let lines := ["--file:a\n".toList, "--return-code:1\n".toList, "--file: a\n".toList,
      "--return-code:2\n".toList, "--file:a \n".toList, "--x\n".toList]
    let strict := interpret { rules with strict := true } lines.flatten
    rules.escalate = false ∧
    strict.warnings = [(.repeatedReturnCode, 3), (.repeatedFile "a".toList, 2),
      (.unknownDirective "--x".toList, 5), (.repeatedFile "a".toList, 4)].map
        (warningOf rules.filename) ∧
    ∃ plan, strict.outcome = .ok plan ∧
      (interpret { rules with strict := false } lines.flatten).outcome = .ok plan ∧
      (interpret { rules with strict := false } lines.flatten).warnings = [] ∧
      ∃ made : List (Remark × Int), strict.warnings = made.map (warningOf rules.filename) ∧
        made.Perm (Reading.remarks lines) := by
  intro rules lines strict
  let plan : Plan :=
    { rootDir := Path.ofText "/r".toList, files := [("a".toList, [])], args := [], env := []
      stdin := [], stdout := [], stderr := [], returnCode := 2, scheme := lines.flatten }
  have hplan : strict.outcome = .ok plan := by decide +kernel
  have hlines : Text.lines lines.flatten = lines := by decide +kernel
  obtain ⟨houtcome, hrelaxed, hmade⟩ := @interpret_strict rules rfl lines.flatten
  obtain ⟨made, hwarnings, hperm, -⟩ := hmade plan hplan
  rw [hlines] at hperm
  exact ⟨rfl, by decide +kernel, plan, hplan, houtcome.symm.trans hplan, hrelaxed, made,
    hwarnings, hperm⟩

end SchemeCheck.Scheme
