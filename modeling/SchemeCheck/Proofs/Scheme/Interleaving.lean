import SchemeCheck.Proofs.Scheme.Acceptance

/-!
# SchemeCheck.Proofs.Scheme.Interleaving

Scalars between the lines of blocks.  What belongs to blocks is read off the
openers and the payload alone (`Reading.payloadWhere_filter`), arguments,
environment entries and return codes each off their own directives, and unknown
directives are read for nothing.  So two schemes that have the same lines of
each of these kinds, interleaved in any way, have the same plan or none:
`interpret_interleaved`.
-/

namespace SchemeCheck.Scheme

/-! ## Kinds of lines -/

/-- Whether a line opens a block or is payload. -/
def isOfBlock (line : Text) : Bool :=
  (opener? line).isSome || Reading.isPayload line

/-- Two rows of lines that have the same lines of blocks, the same arguments, the
same environment entries and the same return codes, each in the same order. -/
structure Interleaved (first second : List Text) : Prop where
  blocks : first.filter isOfBlock = second.filter isOfBlock
  args : first.filter (Reading.isDirective .arg) = second.filter (Reading.isDirective .arg)
  env : first.filter (Reading.isDirective .env) = second.filter (Reading.isDirective .env)
  returnCodes : first.filter (Reading.isDirective .returnCode) =
    second.filter (Reading.isDirective .returnCode)

/-- Where a filter keeps everything that a partial function is defined on, the
function sees no difference. -/
theorem filterMap_filter_of_isSome {α β : Type} {p : α → Bool} {f : α → Option β}
    (h : ∀ x, (f x).isSome = true → p x = true) (xs : List α) :
    (xs.filter p).filterMap f = xs.filterMap f := by
  have hkept : (fun x => if p x = true then f x else none) = f := by
    funext x
    cases hf : f x with
    | none => exact ite_self none
    | some y => rw [if_pos (h x (by rw [hf]; rfl))]
  rw [List.filterMap_filter, hkept]

namespace Reading

/-! ## Reading kinds apart -/

theorem filterMap_opener?_filter (lines : List Text) :
    (lines.filter isOfBlock).filterMap opener? = lines.filterMap opener? :=
  filterMap_filter_of_isSome (fun line h => by rw [isOfBlock, h, Bool.true_or]) lines

theorem filterMap_value?_filter (directive : Directive) (lines : List Text) :
    (lines.filter (isDirective directive)).filterMap (value? directive) =
      lines.filterMap (value? directive) :=
  filterMap_filter_of_isSome (fun _ h => h) lines

theorem fileNames_filter (lines : List Text) :
    fileNames (lines.filter isOfBlock) = fileNames lines := by
  have hname : ∀ line, (fileName? line).isSome = true → isOfBlock line = true := by
    intro line h
    unfold fileName? at h
    unfold isOfBlock
    cases hopen : opener? line with
    | none => simp [hopen] at h
    | some opener => rfl
  rw [fileNames, filterMap_filter_of_isSome hname, fileNames]

theorem nearest?_filter (lines : List Text) :
    nearest? (lines.filter isOfBlock) = nearest? lines := by
  rw [nearest?, filterMap_opener?_filter, nearest?]

/-- Whose payload a line is can be told from the lines of blocks. -/
theorem payloadWhere_filter {p : List Text → List Text → Bool}
    (hp : ∀ before after, p (before.filter isOfBlock) (after.filter isOfBlock) = p before after)
    (before lines : List Text) :
    payloadWhere p (before.filter isOfBlock) (lines.filter isOfBlock) =
      payloadWhere p before lines := by
  induction lines generalizing before with
  | nil => rfl
  | cons line rest ih =>
      have hrest := ih (before ++ [line])
      rw [List.filter_append] at hrest
      cases hkept : isOfBlock line with
      | true =>
          rw [List.filter_cons_of_pos hkept] at hrest ⊢
          rw [payloadWhere, payloadWhere, hp]
          rw [List.filter_nil] at hrest
          rw [hrest]
      | false =>
          have hpayload : isPayload line = false := (Bool.or_eq_false_iff.mp hkept).2
          rw [List.filter_cons_of_neg (by simp [hkept])] at hrest ⊢
          rw [List.filter_nil, List.append_nil] at hrest
          rw [payloadWhere, hpayload, Bool.false_and, if_neg Bool.false_ne_true, hrest]

theorem streamOf_filter (opener : Opener) (lines : List Text) :
    streamOf opener (lines.filter isOfBlock) = streamOf opener lines :=
  payloadWhere_filter (fun before _ => by rw [nearest?_filter]) [] lines

theorem contentOf_filter (name : Text) (lines : List Text) :
    contentOf name (lines.filter isOfBlock) = contentOf name lines :=
  payloadWhere_filter
    (fun before after => by rw [nearest?_filter, filterMap_opener?_filter]) [] lines

theorem filesOf_filter (root : Text) (lines : List Text) :
    filesOf root (lines.filter isOfBlock) = filesOf root lines := by
  simp only [filesOf, fileNames_filter, contentOf_filter]

end Reading

namespace Interleaved

variable {first second : List Text}

theorem streamOf_eq (h : Interleaved first second) (opener : Opener) :
    Reading.streamOf opener second = Reading.streamOf opener first := by
  rw [← Reading.streamOf_filter, ← h.blocks, Reading.streamOf_filter]

theorem filesOf_eq (h : Interleaved first second) (root : Text) :
    Reading.filesOf root second = Reading.filesOf root first := by
  rw [← Reading.filesOf_filter, ← h.blocks, Reading.filesOf_filter]

/-- The values of a directive are the same where its lines are. -/
theorem values_eq {directive : Directive}
    (h : first.filter (Reading.isDirective directive) =
      second.filter (Reading.isDirective directive)) :
    second.filterMap (Reading.value? directive) = first.filterMap (Reading.value? directive) := by
  rw [← Reading.filterMap_value?_filter, ← h, Reading.filterMap_value?_filter]

end Interleaved

/-! ## Refusals -/

/-- Only environment entries and return codes are ever refused. -/
theorem isDirective_of_refusal? {rules : Rules} {line : Text}
    (h : refusal? rules .none line 0 ≠ none) :
    Reading.isDirective .env line = true ∨ Reading.isDirective .returnCode line = true := by
  unfold refusal? at h
  unfold Reading.isDirective Reading.value?
  split at h
  · next hline => exact .inr (by simp [hline])
  · next hline => exact .inl (by simp [hline])
  · exact absurd rfl h

/-- The same entries and return codes are refused wherever they stand. -/
theorem Interleaved.refusal?_eq_none {rules : Rules} {first second : List Text}
    (h : Interleaved first second)
    (hfirst : ∀ line ∈ first, refusal? rules .none line 0 = none) :
    ∀ line ∈ second, refusal? rules .none line 0 = none := by
  intro line hline
  by_contra hrefused
  have hmem : line ∈ first := by
    obtain henv | hcode := isDirective_of_refusal? hrefused
    · have hkept := List.mem_filter.mpr ⟨hline, henv⟩
      rw [← h.env] at hkept
      exact (List.mem_filter.mp hkept).1
    · have hkept := List.mem_filter.mpr ⟨hline, hcode⟩
      rw [← h.returnCodes] at hkept
      exact (List.mem_filter.mp hkept).1
  exact hrefused (hfirst line hmem)

theorem Interleaved.symm {first second : List Text} (h : Interleaved first second) :
    Interleaved second first :=
  ⟨h.blocks.symm, h.args.symm, h.env.symm, h.returnCodes.symm⟩

/-- **Interleaving**: scalars and unknown directives interfere neither with blocks
nor with each other.  Two schemes with the same lines of each kind both fail, or
have the same plan. -/
theorem interpret_interleaved {rules : Rules} (hrecorded : rules.escalate = false)
    {first second : Text} (h : Interleaved (Text.lines first) (Text.lines second))
    (hfirst : ∀ most ∈ rules.maxLineSize, ∀ body ∈ Text.lineBodies first,
      (body.length : Int) ≤ most)
    (hsecond : ∀ most ∈ rules.maxLineSize, ∀ body ∈ Text.lineBodies second,
      (body.length : Int) ≤ most) :
    ((∃ failure, (interpret rules first).outcome = .error failure) ∧
      ∃ failure, (interpret rules second).outcome = .error failure) ∨
    ∃ plan, (interpret rules first).outcome = .ok plan ∧
      (interpret rules second).outcome = .ok { plan with scheme := second } := by
  simp only [outcome_interpret hrecorded, linesWithin_of_forall_le hfirst,
    linesWithin_of_forall_le hsecond]
  have hsame : firstRefusal? rules .none 0 (Text.lines second) = none ↔
      firstRefusal? rules .none 0 (Text.lines first) = none := by
    rw [firstRefusal?_eq_none_iff, firstRefusal?_eq_none_iff]
    exact ⟨h.symm.refusal?_eq_none, h.refusal?_eq_none⟩
  cases hrefusal : firstRefusal? rules .none 0 (Text.lines first) with
  | some failure =>
      have hother : firstRefusal? rules .none 0 (Text.lines second) ≠ none := by
        rw [ne_eq, hsame, hrefusal]
        exact nofun
      obtain ⟨other, hother⟩ := Option.ne_none_iff_exists'.mp hother
      rw [hother]
      exact .inl ⟨⟨failure, rfl⟩, other, rfl⟩
  | none =>
      rw [hsame.mpr hrefusal]
      refine .inr ⟨_, rfl, ?_⟩
      simp only [Reading.plan, h.streamOf_eq, h.filesOf_eq, Reading.returnCodeOf,
        Interleaved.values_eq h.args, Interleaved.values_eq h.env,
        Interleaved.values_eq h.returnCodes]

/-- Scalars of three kinds moved into other blocks and in front of all of them,
with an unknown directive among the lines of a file. -/
theorem interpret_interleaved_scattered :
    let rules : Rules := { root := "/r".toList, strict := true, maxLineSize := some 16 }
    let lines := ["--file: a\n".toList, "x\n".toList, "--arg: {dir}\n".toList, "y\n".toList,
      "--env:A=b\n".toList, "--stdout\n".toList, "o\n".toList, "--return-code: 3\n".toList]
    let scattered := ["--env:A=b\n".toList, "--file: a\n".toList, "x\n".toList,
      "--return-code: 3\n".toList, "--\n".toList, "y\n".toList, "--stdout\n".toList,
      "--arg: {dir}\n".toList, "o\n".toList]
    Interleaved (Text.lines lines.flatten) (Text.lines scattered.flatten) ∧
    ∃ plan, (interpret rules lines.flatten).outcome = .ok plan ∧
      (interpret rules scattered.flatten).outcome =
        .ok { plan with scheme := scattered.flatten } ∧
      plan.files = [("a".toList, "x\ny\n".toList)] ∧ plan.stdout = "o\n".toList ∧
      plan.args = ["/r".toList] ∧ plan.returnCode = 3 := by
  intro rules lines scattered
  have hlines : Text.lines lines.flatten = lines := by decide +kernel
  have hscattered : Text.lines scattered.flatten = scattered := by decide +kernel
  have h : Interleaved (Text.lines lines.flatten) (Text.lines scattered.flatten) := by
    rw [hlines, hscattered]
    exact ⟨by decide +kernel, by decide +kernel, by decide +kernel, by decide +kernel⟩
  let plan : Plan :=
    { rootDir := Path.ofText "/r".toList
      files := [("a".toList, "x\ny\n".toList)]
      args := ["/r".toList], env := ["A=b".toList], stdin := []
      stdout := "o\n".toList, stderr := [], returnCode := 3, scheme := lines.flatten }
  have hplan : (interpret rules lines.flatten).outcome = .ok plan := by decide +kernel
  obtain ⟨⟨failure, herror⟩, -⟩ | ⟨found, hfound, hsecond⟩ :=
    @interpret_interleaved rules rfl lines.flatten scattered.flatten h (by decide +kernel)
      (by decide +kernel)
  · rw [hplan] at herror
    cases herror
  · obtain rfl : plan = found := Except.ok.inj (hplan.symm.trans hfound)
    exact ⟨h, plan, hfound, hsecond, rfl, rfl, rfl, rfl⟩

end SchemeCheck.Scheme
