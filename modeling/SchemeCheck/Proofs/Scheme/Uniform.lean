import SchemeCheck.Proofs.Scheme.Acceptance
import SchemeCheck.Proofs.Text.Rewriting

/-!
# SchemeCheck.Proofs.Scheme.Uniform

A scheme read without a root.  With the placeholder as its own root nothing is
substituted, and the plan of a scheme can be shown before a fixture root is
known; `Plan.rooted` puts the root in afterwards.  The main statement is
`interpret_rooted`: this is the plan, with the remarks, that the root would have
given from the start.

Three things make it so.  No placeholder reaches over the end of a line
(`Reading.plan_rooted`), an absolute root does not spoil an environment entry
(`isEnvEntry_substitute`), and what remarks are about, names and lines, is never
substituted (`State.Alike`).
-/

namespace SchemeCheck.Scheme

/-- The plan with the placeholders that are left in it replaced by the root. -/
def Plan.rooted (root : Text) (plan : Plan) : Plan :=
  { plan with
    rootDir := Path.ofText root
    files := plan.files.map fun file => (file.1, Placeholder.substitute root file.2)
    args := plan.args.map (Placeholder.substitute root)
    env := plan.env.map (Placeholder.substitute root)
    stdout := Placeholder.substitute root plan.stdout
    stderr := Placeholder.substitute root plan.stderr }

/-! ## The plan -/

namespace Reading

theorem payloadWhere_sublist (p : List Text → List Text → Bool) (before lines : List Text) :
    (payloadWhere p before lines).Sublist lines := by
  induction lines generalizing before with
  | nil => exact List.Sublist.refl []
  | cons line rest ih =>
      rw [payloadWhere]
      split
      · exact (ih _).cons_cons line
      · exact (ih _).cons line

/-- Payload of a scheme is substituted line by line or all at once. -/
theorem substitute_flatten_payload (root scheme : Text) (p : List Text → List Text → Bool) :
    Placeholder.substitute root (payloadWhere p [] (Text.lines scheme)).flatten =
      (payloadWhere p [] (Text.lines scheme)).flatMap (Placeholder.substitute root) := by
  refine Placeholder.substitute_flatten root fun line hline => ?_
  obtain ⟨body, -, rfl⟩ := List.mem_map.mp ((payloadWhere_sublist p [] _).subset hline)
  exact List.getLast?_concat

/-- What is read with a root is what is read without one, with the root put in. -/
theorem plan_rooted (root scheme : Text) :
    plan root scheme = (plan (Placeholder.token Placeholder.rootName) scheme).rooted root := by
  have hkept : Placeholder.substitute (Placeholder.token Placeholder.rootName) = id :=
    funext Placeholder.substitute_token
  simp only [plan, Plan.rooted, filesOf, streamOf, contentOf, hkept, List.map_id, List.map_map,
    Function.comp_def, List.flatMap_id, substitute_flatten_payload]

end Reading

/-! ## Refusals -/

/-- An absolute root keeps the form of an entry: it puts no `=` in front. -/
theorem isEnvEntry_substitute {root : Text} (habsolute : root.head? = some '/') {entry : Text}
    (h : isEnvEntry entry = true) : isEnvEntry (Placeholder.substitute root entry) = true := by
  have hequals : '=' ∉ Placeholder.token Placeholder.rootName := by decide
  have htoken := Placeholder.token_ne_nil Placeholder.rootName
  obtain ⟨hmem, hhead⟩ := isEnvEntry_iff.mp h
  rw [isEnvEntry_iff, Placeholder.substitute_eq]
  refine ⟨Text.mem_replaceAll htoken hequals root hmem, ?_⟩
  induction entry using Text.replaceAll_induction htoken with
  | nil => simp at hmem
  | occurrence rest =>
      rw [Text.replaceAll_append htoken, List.head?_append, habsolute, Option.some_or]
      decide
  | kept c rest hfront =>
      rw [Text.replaceAll_cons hfront]
      exact hhead

section Refusals

variable {rules : Rules} {root : Text} (habsolute : root.head? = some '/')
include habsolute

/-- A line that is accepted without a root is accepted with one. -/
theorem refusal?_rooted {block : Block} {line : Text} {lineNum : Int}
    (h : refusal? { rules with root := Placeholder.token Placeholder.rootName } block line lineNum =
      none) :
    refusal? { rules with root := root } block line lineNum = none := by
  unfold refusal? at h ⊢
  cases hline : classify line with
  | payload | unknown => rfl
  | directive directive value =>
      cases directive with
      | returnCode => simpa only [hline] using h
      | env =>
          simp only [hline, Placeholder.substitute_token] at h ⊢
          split at h
          · next hentry => rw [if_pos (isEnvEntry_substitute habsolute hentry)]
          · cases h
      | stderr | stdout | file | stdin | arg => rfl

theorem firstRefusal?_rooted {block : Block} {lineNum : Int} {lines : List Text}
    (h : firstRefusal? { rules with root := Placeholder.token Placeholder.rootName } block lineNum
      lines = none) :
    firstRefusal? { rules with root := root } block lineNum lines = none := by
  induction lines generalizing block lineNum with
  | nil => rfl
  | cons line rest ih =>
      rw [firstRefusal?, Option.or_eq_none_iff] at h ⊢
      exact ⟨refusal?_rooted habsolute h.1, ih h.2⟩

end Refusals

/-! ## Remarks -/

/-- Two states that differ in nothing that a remark is about. -/
structure State.Alike (first second : State) : Prop where
  block : first.block = second.block
  names : Table.keys first.files = Table.keys second.files
  pendingFile : first.pendingFile = second.pendingFile
  pendingLine : first.pendingLine = second.pendingLine
  returnCodeLine : first.returnCodeLine = second.returnCodeLine

namespace State.Alike

variable {first second : State}

theorem storeRemark? (h : Alike first second) : first.storeRemark? = second.storeRemark? := by
  unfold State.storeRemark?
  simp only [Table.has_iff, h.block, h.names, h.pendingFile, h.pendingLine]

theorem remark? (h : Alike first second) (line : Text) (lineNum : Int) :
    first.remark? line lineNum = second.remark? line lineNum := by
  unfold State.remark?
  simp only [h.storeRemark?, h.returnCodeLine]

theorem flushed (h : Alike first second) : Alike first.flushed second.flushed := by
  unfold State.flushed
  rw [← h.block]
  split
  · exact { h with
      block := rfl
      names := by rw [Table.keys_put, Table.keys_put, h.names, h.pendingFile] }
  · exact h

theorem opened (h : Alike first second) (opener : Opener) (lineNum : Int) :
    Alike (first.opened opener lineNum) (second.opened opener lineNum) := by
  cases opener with
  | stderr | stdout | stdin => exact { h.flushed with block := rfl }
  | file name =>
      exact { h.flushed with block := rfl, pendingFile := rfl, pendingLine := rfl }

theorem take (h : Alike first second) (rules others : Rules) (line : Text) :
    Alike (first.take rules line) (second.take others line) := by
  unfold State.take
  rw [← h.block]
  split
  · exact h
  all_goals exact { h with block := rfl }

/-- **Step**: a line keeps two states alike, whatever is substituted in it. -/
theorem next (h : Alike first second) (rules others : Rules) (line : Text) (lineNum : Int) :
    Alike (first.next rules line lineNum) (second.next others line lineNum) := by
  unfold State.next
  cases classify line with
  | unknown => exact h
  | payload => exact h.take rules others line
  | directive directive value =>
      cases directive with
      | stderr | stdout | stdin | file => exact h.opened _ lineNum
      | arg | env => exact { h with }
      | returnCode => exact { h with returnCodeLine := rfl }

end State.Alike

/-- **Run**: two runs under rules that record the same way, in which nothing is
refused, make the same remarks. -/
theorem feedFrom_alike {rules others : Rules} (hrecorded : rules.escalate = false)
    (hrecorded' : others.escalate = false) (hsame : recorded rules = recorded others)
    {lineNum : Int} {lines : List Text} (progress other : Progress Unit)
    (hok : progress.outcome = .ok ()) (hok' : other.outcome = .ok ())
    (halike : State.Alike progress.state other.state)
    (hwarnings : progress.warnings = other.warnings)
    (h : firstRefusal? rules progress.state.block lineNum lines = none)
    (h' : firstRefusal? others other.state.block lineNum lines = none) :
    State.Alike (feedFrom rules lineNum lines progress).state
        (feedFrom others lineNum lines other).state ∧
      (feedFrom rules lineNum lines progress).warnings =
        (feedFrom others lineNum lines other).warnings := by
  induction lines generalizing lineNum progress other with
  | nil => exact ⟨halike, hwarnings⟩
  | cons line rest ih =>
      rw [firstRefusal?, Option.or_eq_none_iff] at h h'
      rw [feedFrom_cons_of_accepted hrecorded hok h.1,
        feedFrom_cons_of_accepted hrecorded' hok' h'.1]
      refine ih _ _ rfl rfl (halike.next rules others line lineNum) ?_ ?_ ?_
      · simp only [hwarnings, hsame, halike.remark?]
      · simpa only [block_next] using h.2
      · simpa only [block_next] using h'.2

/-- **Uniformity**: the plan under an absolute root is the plan that the scheme
has without one, with the root put in; and the remarks are the same. -/
theorem interpret_rooted {rules : Rules} (hrecorded : rules.escalate = false) {root : Text}
    (habsolute : root.head? = some '/') {scheme : Text} {plan : Plan}
    (h : (interpret { rules with root := Placeholder.token Placeholder.rootName } scheme).outcome =
      .ok plan) :
    (interpret { rules with root := root } scheme).outcome = .ok (plan.rooted root) ∧
      (interpret { rules with root := root } scheme).warnings =
        (interpret { rules with root := Placeholder.token Placeholder.rootName }
          scheme).warnings := by
  have hshown : Rules.escalate
      { rules with root := Placeholder.token Placeholder.rootName } = false := hrecorded
  have hrooted : Rules.escalate { rules with root := root } = false := hrecorded
  obtain ⟨hlines, hrefusal, hplan⟩ := (interpret_eq_ok_iff hshown).mp h
  have hrefusal' := firstRefusal?_rooted habsolute hrefusal
  constructor
  · rw [interpret_eq_ok_iff hrooted, hplan]
    exact ⟨hlines, hrefusal', (Reading.plan_rooted root scheme).symm⟩
  · obtain ⟨halike, hwarnings⟩ := feedFrom_alike hrooted hshown rfl ⟨{}, [], .ok ()⟩
      ⟨{}, [], .ok ()⟩ rfl rfl ⟨rfl, rfl, rfl, rfl, rfl⟩ rfl hrefusal' hrefusal
    rw [warnings_interpret hrooted hlines hrefusal', warnings_interpret hshown hlines hrefusal]
    simp only [hwarnings, halike.storeRemark?]
    rfl

/-- A scheme that mentions the root in all its places, next to line ends and in
the middle of its own spelling, and makes three remarks. -/
theorem interpret_rooted_everywhere :
    let scheme := ["--file:{dir}\n".toList, "{dir}\n".toList,
      "--arg: {dir}/\x7b{dir}\x7d\n".toList, "--env: {dir}={dir}=\n".toList,
      "--other {dir}\n".toList, "--stdin\n".toList, "{dir}\n".toList,
      "--stdout\n".toList, "\x7bdir\n".toList, "\x7d{dir}\n".toList,
      "--file:{dir}\n".toList, "x{dir}\n".toList,
      "--return-code: 1\n".toList, "--return-code: 2".toList].flatten
    let rules : Rules := { root := [], strict := true }
    let shown := interpret { rules with root := Placeholder.token Placeholder.rootName } scheme
    let rooted := interpret { rules with root := "/r=".toList } scheme
    rules.escalate = false ∧ ("/r=".toList).head? = some '/' ∧
    ∃ plan, shown.outcome = .ok plan ∧ rooted.outcome = .ok (plan.rooted "/r=".toList) ∧
      rooted.warnings = shown.warnings ∧ shown.warnings.length = 3 ∧
      plan.rooted "/r=".toList =
        { rootDir := Path.ofText "/r=".toList
          files := [("{dir}".toList, "x/r=\n".toList)]
          args := ["/r=/\x7b/r=\x7d".toList], env := ["/r==/r==".toList]
          stdin := "{dir}\n".toList, stdout := "\x7bdir\n\x7d/r=\n".toList, stderr := []
          returnCode := 2, scheme := scheme } := by
  intro scheme rules shown rooted
  let plan : Plan :=
    { rootDir := Path.ofText "{dir}".toList
      files := [("{dir}".toList, "x{dir}\n".toList)]
      args := ["{dir}/\x7b{dir}\x7d".toList], env := ["{dir}={dir}=".toList]
      stdin := "{dir}\n".toList, stdout := "\x7bdir\n\x7d{dir}\n".toList, stderr := []
      returnCode := 2, scheme := scheme }
  have hplan : shown.outcome = .ok plan := by decide +kernel
  obtain ⟨houtcome, hwarnings⟩ :=
    @interpret_rooted rules rfl "/r=".toList rfl scheme plan hplan
  exact ⟨rfl, rfl, plan, hplan, houtcome, hwarnings, by decide +kernel, by decide +kernel⟩

end SchemeCheck.Scheme
