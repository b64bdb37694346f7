import SchemeCheck.Proofs.Scheme.Uniform

/-!
# SchemeCheck.Proofs.Scheme.Payload

Payload is substituted while its lines are consumed, and the blocks of a plan
are made of the substituted lines.  Substitution does not go along with
concatenation in general, since a placeholder may lie across the joint.  It does
behind a line feed, which no placeholder has (`Placeholder.substitute_append`),
so it makes no difference when the lines are put together: every block is the
substitution of its whole raw payload (`substitute_linewise`), under any root.
-/

namespace SchemeCheck.Scheme

namespace Reading

variable (root scheme : Text)

/-- Expected output is the substitution of its whole payload. -/
theorem stdout_plan : (plan root scheme).stdout =
    Placeholder.substitute root (streamOf .stdout (Text.lines scheme)).flatten :=
  (substitute_flatten_payload root scheme _).symm

/-- So is expected error output. -/
theorem stderr_plan : (plan root scheme).stderr =
    Placeholder.substitute root (streamOf .stderr (Text.lines scheme)).flatten :=
  (substitute_flatten_payload root scheme _).symm

/-- So is the content of a file, which the last block of its name has. -/
theorem content_plan {file : Text × Text} (h : file ∈ (plan root scheme).files) :
    file.2 = Placeholder.substitute root (contentOf file.1 (Text.lines scheme)).flatten := by
  obtain ⟨name, -, rfl⟩ := List.mem_map.mp h
  exact (substitute_flatten_payload root scheme _).symm

end Reading

/-- **Line by line is all at once**: texts that end in a line feed are substituted one by
one as they are together, and so is such a text with whatever follows it.  Therefore the
blocks of a plan are the substitutions of their raw payload. -/
theorem substitute_linewise (root : Text) :
    (∀ lines : List Text, (∀ line ∈ lines, line.getLast? = some '\n') →
      (lines.map (Placeholder.substitute root)).flatten =
        Placeholder.substitute root lines.flatten) ∧
    (∀ first second : Text, first.getLast? = some '\n' →
      Placeholder.substitute root first ++ Placeholder.substitute root second =
        Placeholder.substitute root (first ++ second)) ∧
    ∀ (rules : Rules) (scheme : Text) (plan : Plan), rules.root = root →
      (interpret rules scheme).outcome = .ok plan →
      plan.stdout =
        Placeholder.substitute root (Reading.streamOf .stdout (Text.lines scheme)).flatten ∧
      plan.stderr =
        Placeholder.substitute root (Reading.streamOf .stderr (Text.lines scheme)).flatten ∧
      ∀ file ∈ plan.files,
        file.2 =
          Placeholder.substitute root (Reading.contentOf file.1 (Text.lines scheme)).flatten := by
  refine ⟨fun lines hlines => ?_, fun first second hfirst => ?_, ?_⟩
  · rw [Placeholder.substitute_flatten root hlines, List.flatMap_def]
  · exact (Placeholder.substitute_append root hfirst second).symm
  · rintro rules scheme plan rfl h
    obtain ⟨state, hran, rfl⟩ := interpret_ok h
    rw [Reading.plan_flushed (Reading.reads_of_ran hran)]
    exact ⟨Reading.stdout_plan _ _, Reading.stderr_plan _ _, fun _ => Reading.content_plan _ _⟩

/-- A root that holds the placeholder, a line feed and an open brace, payload with parts of
a placeholder on both sides of a line end, and a file that is declared twice. -/
theorem substitute_linewise_braces :
    let root := "\x7bdir\x7d\n\x7bdi".toList
    let lines :=
      ["\x7bdi\n".toList, "r\x7d\x7bdir\x7d\n".toList, "\x7b\x7bdir\x7ddir\x7d\n".toList]
    let whole := "\x7bdi\nr\x7d\x7bdir\x7d\n\x7bdi\n\x7b\x7bdir\x7d\n\x7bdidir\x7d\n".toList
    let scheme := "--file:a\nold\n--stdout\n".toList ++ lines.flatten ++
      "--file:a\n".toList ++ lines.flatten
    let plan : Plan :=
      { rootDir := Path.ofText root, files := [("a".toList, whole)], args := [], env := []
        stdin := [], stdout := whole, stderr := [], returnCode := 0, scheme := scheme }
    (∀ line ∈ lines, line.getLast? = some '\n') ∧
      (interpret { root := root } scheme).outcome = .ok plan ∧
      whole = Placeholder.substitute root lines.flatten ∧
      Placeholder.substitute root "\x7bdi\n".toList ++ Placeholder.substitute root "r\x7d".toList =
        Placeholder.substitute root "\x7bdi\nr\x7d".toList ∧
      whole =
        Placeholder.substitute root (Reading.streamOf .stdout (Text.lines scheme)).flatten ∧
      whole =
        Placeholder.substitute root (Reading.contentOf "a".toList (Text.lines scheme)).flatten := by
  intro root lines whole scheme plan
  obtain ⟨hlines, happend, hblocks⟩ := substitute_linewise root
  have hclosed : ∀ line ∈ lines, line.getLast? = some '\n' := by decide
  have hwhole : (lines.map (Placeholder.substitute root)).flatten = whole := by decide +kernel
  have hplan : (interpret { root := root } scheme).outcome = .ok plan := by decide +kernel
  obtain ⟨hstdout, -, hfiles⟩ := hblocks { root := root } scheme plan rfl hplan
  exact ⟨hclosed, hplan, hwhole.symm.trans (hlines lines hclosed),
    happend "\x7bdi\n".toList "r\x7d".toList (by decide), hstdout,
    hfiles ("a".toList, whole) List.mem_cons_self⟩

end SchemeCheck.Scheme
