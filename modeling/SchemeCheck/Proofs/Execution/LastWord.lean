import Mathlib.Data.List.Induction
import SchemeCheck.Proofs.Execution.Building
import SchemeCheck.Proofs.Record.Plan

/-!
# SchemeCheck.Proofs.Execution.LastWord

The environment and the arguments of a command.  Whatever is said about a
variable is a `Word`: that it has a value, or that it is absent.  The ambient
environment speaks first, then the entries of the plan, then the adjustments;
each of them does to the environment just what its words say
(`Follows.merge`, `Follows.without`), so the last word about a variable decides:
`command_last_word`.
-/

namespace SchemeCheck

/-! ## Words -/

/-- What is said about a variable. -/
inductive Word where
  /-- It has the value. -/
  | set (name value : Text)
  /-- It is absent. -/
  | unset (name : Text)

namespace Word

/-- The variable that a word is about. -/
def name : Word → Text
  | set name _ | unset name => name

/-- The value that a word gives its variable. -/
def value? : Word → Option Text
  | set _ value => some value
  | unset _ => none

/-- The word of a variable that is given with its value. -/
def ofPair (pair : Text × Text) : Word :=
  .set pair.1 pair.2

/-- The word of an entry that is written `KEY=VALUE`: the key ends at the first `=`. -/
def ofEntry (entry : Text) : Word :=
  .set (entry.takeWhile (· ≠ '=')) ((entry.dropWhile (· ≠ '=')).drop 1)

/-- The value of a variable by the last word about it; without one it is absent. -/
def last? (name : Text) (words : List Word) : Option Text :=
  (words.reverse.find? fun word => decide (word.name = name)).bind value?

@[simp] theorem last?_nil (name : Text) : last? name [] = none := rfl

/-- One word more is the last one about its variable. -/
theorem last?_concat (name : Text) (words : List Word) (word : Word) :
    last? name (words ++ [word]) = if word.name = name then word.value? else last? name words := by
  unfold last?
  rw [List.reverse_append, List.reverse_singleton, List.singleton_append, List.find?_cons]
  split <;> simp_all

/-- Pairs that are given after other words leave to those what they do not mention. -/
theorem last?_append_ofPair (name : Text) (words : List Word) (pairs : List (Text × Text)) :
    last? name (words ++ pairs.map ofPair) =
      (last? name (pairs.map ofPair)).or (last? name words) := by
  induction pairs using List.reverseRecOn with
  | nil => simp
  | append_singleton rest pair ih =>
      rw [List.map_append, List.map_singleton, ← List.append_assoc, last?_concat, last?_concat, ih]
      split <;> rfl

end Word

/-- An environment in which every variable stands once, with the value of the last
word about it. -/
structure Follows (words : List Word) (env : Table Text Text) : Prop where
  nodup : (Table.keys env).Nodup
  get? : ∀ name, Table.get? name env = Word.last? name words

namespace Follows

variable {words : List Word} {env : Table Text Text}

/-- Without words there are no variables. -/
theorem nil : Follows [] [] where
  nodup := List.nodup_nil
  get? _ := rfl

/-- Variables that are laid over an environment have their say last. -/
theorem merge (h : Follows words env) (pairs : List (Text × Text)) :
    Follows (words ++ pairs.map Word.ofPair) (env.merge pairs) where
  nodup := Table.nodup_keys_merge h.nodup pairs
  get? name := by
    induction pairs using List.reverseRecOn with
    | nil => simpa [Table.merge] using h.get? name
    | append_singleton rest pair ih =>
        rw [List.map_append, List.map_singleton, ← List.append_assoc, Word.last?_concat,
          Table.merge_concat, Table.get?_put, ih]
        rfl

/-- So have variables that are removed from it. -/
theorem without (h : Follows words env) (names : List Text) :
    Follows (words ++ names.map Word.unset) (env.without names) where
  nodup := Table.nodup_keys_without h.nodup names
  get? name := by
    rw [Table.get?_without]
    induction names using List.reverseRecOn with
    | nil => simpa using h.get? name
    | append_singleton rest removed ih =>
        rw [List.map_append, List.map_singleton, ← List.append_assoc, Word.last?_concat, ← ih]
        by_cases hname : removed = name
        · simp [hname, Word.name, Word.value?]
        · have hne : name ≠ removed := fun e => hname e.symm
          simp [hname, hne, Word.name]

/-- An environment in which every variable stands once has the word of each. -/
theorem ofNodup (h : (Table.keys env).Nodup) : Follows (env.map Word.ofPair) env := by
  simpa [Table.merge_of_nodup, h] using nil.merge env

/-- Entries have their say as one table, too. -/
theorem mergeEntries (h : Follows words env) (entries : List (Text × Text)) :
    Follows (words ++ entries.map Word.ofPair) (env.merge (Table.ofEntries entries)) := by
  have htable : Follows (entries.map Word.ofPair) (Table.ofEntries entries) := nil.merge entries
  have hmerged := h.merge (Table.ofEntries entries)
  refine ⟨hmerged.nodup, fun name => ?_⟩
  rw [hmerged.get?, Word.last?_append_ofPair, Word.last?_append_ofPair, ← htable.get?,
    ← (ofNodup htable.nodup).get?]

end Follows

/-- The words of the entries that a plan adds to its environment. -/
theorem Word.ofPair_splitEnvEntry (entry : Text) :
    Word.ofPair (Scheme.splitEnvEntry entry) = Word.ofEntry entry := by
  unfold Scheme.splitEnvEntry Text.cutAt Word.ofPair Word.ofEntry
  cases hrest : entry.dropWhile fun c => decide (c ≠ '=') <;> rfl

/-! ## Adjustments that are made with texts -/

/-- A built-in adjustment that is made with texts. -/
inductive TextAdjustment where
  /-- Lay variables over the environment: a mapping, and then keywords. -/
  | withEnv (mapping keywords : List (Text × Text))
  /-- Remove variables from the environment. -/
  | withoutEnv (names : List Text)
  /-- Run in another directory. -/
  | withCwd (path : Text)
  /-- Put arguments in front. -/
  | withArgs (args : List Text)

namespace TextAdjustment

/-- The adjustment of a command. -/
def adjustment : TextAdjustment → Command.Adjustment
  | withEnv mapping keywords =>
    .withEnv ((mapping ++ keywords).map fun entry => (.str entry.1, .str entry.2))
  | withoutEnv names => .withoutEnv (names.map .str)
  | withCwd path => .withCwd (.str path)
  | withArgs args => .withArgs (args.map .str)

/-- What the adjustment says about variables. -/
def words : TextAdjustment → List Word
  | withEnv mapping keywords => (mapping ++ keywords).map Word.ofPair
  | withoutEnv names => names.map Word.unset
  | withCwd _ | withArgs _ => []

/-- The arguments that the adjustment puts in front. -/
def args : TextAdjustment → List Text
  | withArgs args => args
  | withEnv _ _ | withoutEnv _ | withCwd _ => []

/-- The working directory after the adjustment. -/
def move (cwd : Path) : TextAdjustment → Path
  | withCwd path => cwd.join (Path.ofText path)
  | withEnv _ _ | withoutEnv _ | withArgs _ => cwd

theorem isBuiltIn_adjustment (adjustment : TextAdjustment) :
    adjustment.adjustment.isBuiltIn = true := by
  cases adjustment <;> rfl

end TextAdjustment

namespace Command

open Record

/-- Assigning arguments that are texts. -/
theorem assign_args (command : Command) (args : List Text) :
    command.assign "args".toList (.list (args.map .str)) = .ok { command with args } := by
  have haccepted : listRule .notList textRule (.list (args.map .str)) = .valid args :=
    listRule_tuple .notList fun _ _ => rfl
  change replace "args".toList _ _ _ = _
  rw [replace, haccepted]
  rfl

/-- Assigning an environment that is made of texts. -/
theorem assign_env (command : Command) (entries : List (Text × Text)) :
    command.assign "env".toList
        (Value.dictOf (entries.map fun entry => (.str entry.1, .str entry.2))) =
      .ok { command with env := Table.ofEntries entries } := by
  change replace "env".toList _ _ _ = _
  rw [replace, tableRule_dictOf]
  rfl

/-- **Step**: an adjustment that is made with texts is never refused.  It does to the
environment what its words say, and its arguments come first. -/
theorem adjust_text {command : Command} {words : List Word} (h : Follows words command.env)
    (adjustment : TextAdjustment) :
    ∃ next, command.adjust adjustment.adjustment = .ok next ∧
      Follows (words ++ adjustment.words) next.env ∧
      next.args = adjustment.args ++ command.args ∧
      next.cwd = adjustment.move command.cwd := by
  cases adjustment with
  | withEnv mapping keywords =>
      refine ⟨{ command with env := command.env.merge (mapping ++ keywords) }, ?_,
        h.merge (mapping ++ keywords), rfl, rfl⟩
      rw [← Table.ofEntries_of_nodup h.nodup, ← Table.ofEntries_append, ← assign_env,
        List.map_append]
      rfl
  | withoutEnv names =>
      refine ⟨{ command with env := command.env.without names }, ?_, h.without names, rfl, rfl⟩
      rw [TextAdjustment.adjustment, adjust, List.filterMap_map]
      exact congrArg (fun removed => Except.ok { command with env := command.env.without removed })
        List.filterMap_some
  | withCwd path =>
      exact ⟨_, rfl, by simpa [TextAdjustment.words] using h, rfl, rfl⟩
  | withArgs args =>
      refine ⟨{ command with args := args ++ command.args }, ?_,
        by simpa [TextAdjustment.words] using h, rfl, rfl⟩
      rw [← assign_args, List.map_append]
      rfl

/-- **Run**: any number of them, one after another. -/
theorem adjustAll_text {command : Command} {words : List Word} (h : Follows words command.env)
    (adjustments : List TextAdjustment) :
    ∃ last, command.adjustAll (adjustments.map TextAdjustment.adjustment) = .ok last ∧
      Follows (words ++ adjustments.flatMap TextAdjustment.words) last.env ∧
      last.args = adjustments.reverse.flatMap TextAdjustment.args ++ command.args ∧
      last.cwd = adjustments.foldl TextAdjustment.move command.cwd := by
  induction adjustments generalizing command words with
  | nil => exact ⟨command, rfl, by simpa using h, rfl, rfl⟩
  | cons adjustment rest ih =>
      obtain ⟨next, hnext, hwords, hargs, hcwd⟩ := adjust_text h adjustment
      obtain ⟨last, hlast, hwords, hargs', hcwd'⟩ := ih hwords
      refine ⟨last, ?_, by simpa using hwords, ?_, ?_⟩
      · rw [← hlast, adjustAll, List.map_cons, List.foldlM_cons, hnext]
        rfl
      · rw [hargs', hargs]
        simp
      · rw [hcwd', hcwd]
        rfl

end Command

/-! ## The last word -/

namespace Harness

/-- **Environment and arguments**: the last word about a variable decides, in the
order of the ambient environment, the entries of the plan and the adjustments.
The arguments of later adjustments come before those of earlier ones, and those of
the plan come last.  The program, its input and the encoding stay as they are. -/
theorem command_last_word {harness : Harness} (hambient : (Table.keys harness.ambient).Nodup)
    {program : Text} (hprogram : program ≠ []) (plan : Scheme.Plan)
    (adjustments : List TextAdjustment) :
    ∃ unadjusted command,
      harness.command program [] plan = .ok unadjusted ∧
      harness.command program (adjustments.map TextAdjustment.adjustment) plan = .ok command ∧
      (Table.keys command.env).Nodup ∧
      (∀ name, Table.get? name command.env =
        Word.last? name (harness.ambient.map Word.ofPair ++ plan.env.map Word.ofEntry ++
          adjustments.flatMap TextAdjustment.words)) ∧
      command.args = adjustments.reverse.flatMap TextAdjustment.args ++ plan.args ∧
      command.program = unadjusted.program ∧
      command.stdin = plan.stdin ∧
      command.encoding = harness.settings.encoding := by
  have hentries : (plan.env.map Scheme.splitEnvEntry).map Word.ofPair =
      plan.env.map Word.ofEntry := by
    rw [List.map_map]
    exact List.map_congr_left fun entry _ => Word.ofPair_splitEnvEntry entry
  have hunadjusted : Follows (harness.ambient.map Word.ofPair ++ plan.env.map Word.ofEntry)
      (harness.unadjusted program plan).env := by
    rw [← hentries]
    exact (Follows.ofNodup hambient).mergeEntries _
  obtain ⟨command, hcommand, henv, hargs, -⟩ := Command.adjustAll_text hunadjusted adjustments
  have hbuiltIn : ∀ adjustment ∈ adjustments.map TextAdjustment.adjustment,
      adjustment.isBuiltIn = true := by
    intro _ h
    obtain ⟨adjustment, -, rfl⟩ := List.mem_map.mp h
    exact adjustment.isBuiltIn_adjustment
  have hbuilt : harness.command program (adjustments.map TextAdjustment.adjustment) plan =
      .ok command := by
    rw [command_eq, if_neg hprogram, hcommand]
  have hkeeps := keeps_of_command hbuiltIn hbuilt
  exact ⟨harness.unadjusted program plan, command, command_of_ne_nil hprogram harness plan, hbuilt,
    henv.nodup, henv.get?, hargs, hkeeps.program, hkeeps.stdin, hkeeps.encoding⟩

/-- What is removed can be set again, a later entry counts, a keyword counts after
the mapping, and a value may hold `=`. -/
theorem command_last_word_overlaid :
    let harness : Harness :=
      { settings := { strict := false, maxLineSize := 80, encoding := "utf-8".toList }
        escalate := false, cwd := []
        ambient := ["A", "B", "D"].map fun name => (name.toList, "ambient".toList)
        starter := fun _ => .error (.foreign []) }
    let plan : Scheme.Plan :=
      { rootDir := Path.ofText "/r".toList, files := [], args := ["run".toList]
        env := ["C=", "B=b", "C=x=y"].map String.toList, stdin := "in".toList, stdout := []
        stderr := [], returnCode := 0, scheme := [] }
    let adjustments : List TextAdjustment :=
      [.withArgs ["-i".toList], .withoutEnv ["A".toList, "B".toList],
        .withEnv [("A".toList, "1".toList)] [("A".toList, "2".toList)],
        .withCwd "src".toList, .withArgs ["-v".toList]]
    (Table.keys harness.ambient).Nodup ∧ "env".toList ≠ [] ∧
    ∃ command,
      harness.command "env".toList (adjustments.map TextAdjustment.adjustment) plan =
        .ok command ∧
      (["A", "B", "C", "D", "E"].map fun name => Table.get? name.toList command.env) =
        [some ['2'], none, some "x=y".toList, some "ambient".toList, none] ∧
      command.args = ["-v", "-i", "run"].map String.toList ∧
      command.program = "env".toList ∧ command.stdin = "in".toList ∧
      command.encoding = "utf-8".toList := by
  intro harness plan adjustments
  have hnodup : (Table.keys harness.ambient).Nodup := by decide +kernel
  have hprogram : "env".toList ≠ [] := by decide
  obtain ⟨unadjusted, command, hunadjusted, hcommand, -, hget, hargs, hname, hstdin, hencoding⟩ :=
    command_last_word hnodup hprogram plan adjustments
  refine ⟨hnodup, hprogram, command, hcommand, ?_, hargs, ?_, hstdin, hencoding⟩
  · simp only [hget]
    decide +kernel
  · have hbare : harness.command "env".toList [] plan = .ok
        (harness.unadjusted "env".toList plan) := command_of_ne_nil hprogram harness plan
    rw [hname, ← Except.ok.inj (hbare.symm.trans hunadjusted)]
    decide +kernel

end Harness

end SchemeCheck
