import SchemeCheck.Proofs.Scheme.Payload

/-!
# SchemeCheck.Proofs.Scheme.Resolution

A plan has no placeholders left.  Every text of a plan in which placeholders
count is one substitution: an argument or an entry by itself, a block as a
whole, because no placeholder reaches over the end of a line.  A substitution
by an absolute root without an opening brace leaves nothing to substitute, so
neither does a plan: `interpret_resolved`.
-/

namespace SchemeCheck.Scheme

/-- A plan in which no placeholder is left where placeholders are substituted. -/
structure Plan.Resolved (plan : Plan) : Prop where
  args : ∀ arg ∈ plan.args, Placeholder.Absent arg
  env : ∀ entry ∈ plan.env, Placeholder.Absent entry
  files : ∀ file ∈ plan.files, Placeholder.Absent file.2
  stdout : Placeholder.Absent plan.stdout
  stderr : Placeholder.Absent plan.stderr

/-- What is read under a root whose substitution leaves no placeholder has none. -/
theorem Reading.resolved_plan {root : Text}
    (h : ∀ text, Placeholder.Absent (Placeholder.substitute root text)) (scheme : Text) :
    (Reading.plan root scheme).Resolved := by
  -- A block is the substitution of its whole payload.
  constructor
  case args =>
    intro arg harg
    obtain ⟨value, -, rfl⟩ := List.mem_map.mp harg
    exact h value
  case env =>
    intro entry hentry
    obtain ⟨value, -, rfl⟩ := List.mem_map.mp hentry
    exact h value
  case files =>
    intro file hfile
    rw [content_plan root scheme hfile]
    exact h _
  case stdout =>
    rw [stdout_plan]
    exact h _
  case stderr =>
    rw [stderr_plan]
    exact h _

/-- **Resolution**: under an absolute root without an opening brace, no placeholder is
left in the arguments, the environment, the files and the expected output of a plan. -/
theorem interpret_resolved {rules : Rules} (habsolute : rules.root.head? = some '/')
    (hbrace : '\x7b' ∉ rules.root) {scheme : Text} {plan : Plan}
    (h : (interpret rules scheme).outcome = .ok plan) : plan.Resolved := by
  obtain ⟨state, hran, rfl⟩ := interpret_ok h
  rw [Reading.plan_flushed (Reading.reads_of_ran hran)]
  exact Reading.resolved_plan (Placeholder.absent_substitute habsolute hbrace) scheme

/-- Placeholders within placeholders, split by a line end, and around a root that is
spelled like one. -/
theorem interpret_resolved_nested :
    let rules : Rules := { root := "/dir".toList }
    let scheme := ["--arg:\x7b{dir}dir\x7d\n".toList, "--arg:\x7b{dir}\x7d\n".toList,
      "--env:{dir}=\x7bdi{dir}r\x7d\n".toList, "--file:{dir}\n".toList,
      "\x7bdi\n".toList, "r\x7d\x7b{dir}\n".toList, "--stdout\n".toList,
      "\x7bd{dir}ir\x7d{dir}".toList].flatten
    let plan : Plan :=
      { rootDir := Path.ofText "/dir".toList
        files := [("{dir}".toList, "\x7bdi\nr\x7d\x7b/dir\n".toList)]
        args := ["\x7b/dirdir\x7d".toList, "\x7b/dir\x7d".toList]
        env := ["/dir=\x7bdi/dirr\x7d".toList], stdin := []
        stdout := "\x7bd/dirir\x7d/dir\n".toList, stderr := [], returnCode := 0
        scheme := scheme }
    rules.root.head? = some '/' ∧ '\x7b' ∉ rules.root ∧
      (interpret rules scheme).outcome = .ok plan ∧ plan.Resolved := by
  intro rules scheme plan
  have hplan : (interpret rules scheme).outcome = .ok plan := by decide +kernel
  have hbrace : '\x7b' ∉ rules.root := by decide
  exact ⟨rfl, hbrace, hplan, interpret_resolved rfl hbrace hplan⟩

end SchemeCheck.Scheme
