import SchemeCheck.Proofs.Table
import SchemeCheck.Record.Plan

/-!
# SchemeCheck.Proofs.Record.Plan

Plans as records.  The fields of a plan (`Scheme.Plan.fields`) are accepted by
the check of raw fields, which makes the same plan of them again
(`ofFields_fields`), provided that no two files have the same name and that the
environment entries have the form that the check asks for.
-/

namespace SchemeCheck

open Record

/-! ## Checks that find nothing -/

namespace Record

theorem all_map_valid {α : Type} (xs : List α) : Checked.all (xs.map Checked.valid) = .valid xs := by
  induction xs with
  | nil => rfl
  | cons x rest ih =>
      rw [List.map_cons, Checked.all, ih]
      rfl

/-- A tuple of which every item is accepted is accepted. -/
theorem listRule_tuple {α : Type} (complaint : Complaint) {item : Rule α} {raw : α → Value}
    {xs : List α} (h : ∀ x ∈ xs, item (raw x) = .valid x) :
    listRule complaint item (.tuple (xs.map raw)) = .valid xs := by
  have hchecks : ((xs.map raw).zipIdx.map fun entry => (item entry.1).inside (.number entry.2)) =
      xs.zipIdx.map (Checked.valid ∘ Prod.fst) := by
    rw [List.zipIdx_map, List.map_map]
    refine List.map_congr_left fun entry hentry => ?_
    simp [h entry.1 (List.fst_mem_of_mem_zipIdx hentry), Checked.inside]
  rw [listRule, hchecks, ← List.map_map, List.zipIdx_map_fst, all_map_valid]

/-- A mapping from texts to texts is accepted, and no entry of it is lost if no two
keys are the same. -/
theorem tableRule_dict {table : Table Text Text} (h : (Table.keys table).Nodup) :
    tableRule (.dict (table.map fun entry => (.str entry.1, .str entry.2))) = .valid table := by
  rw [tableRule, List.map_map]
  have hchecks : table.map ((fun entry : Value × Value =>
      ((textRule entry.1).inside (.name "[key]".toList)).map Prod.mk
        |>.both (textRule entry.2) |>.inside (stepTo entry.1)) ∘
      fun entry => (.str entry.1, .str entry.2)) = table.map Checked.valid := rfl
  rw [hchecks, all_map_valid, Checked.map, Table.ofEntries_of_nodup h]

/-- Two texts are the same key if they are the same text. -/
theorem sameKey_str (s t : Text) : Value.sameKey (.str s) (.str t) = decide (s = t) := by
  rw [Value.sameKey]

/-- A mapping of texts is made of them like a table of texts. -/
theorem dictOf_map_str (entries : List (Text × Text)) :
    Value.dictOf (entries.map fun entry => (.str entry.1, .str entry.2)) =
      .dict ((Table.ofEntries entries).map fun entry => (.str entry.1, .str entry.2)) := by
  let raw (entry : Text × Text) : Value × Value := (.str entry.1, .str entry.2)
  let put (table : Table Text Text) (entry : Text × Text) := Table.put entry.1 entry.2 table
  rw [Value.dictOf, List.foldl_map]
  refine congrArg Value.dict (@List.foldl_hom _ _ _ (List.map raw) put _ entries [] ?_)
  intro table entry
  have hhas : (table.map raw).any (fun old => Value.sameKey old.1 (.str entry.1)) =
      Table.has entry.1 table := by
    simp only [raw, Table.has, List.any_map, Function.comp_def, sameKey_str]
  cases hknown : Table.has entry.1 table with
  | true =>
      simp only [hhas, hknown, if_true, put, Table.put_of_has, List.map_map]
      refine List.map_congr_left fun old _ => ?_
      by_cases hold : old.1 = entry.1 <;> simp [raw, sameKey_str, Table.setAt, hold]
  | false =>
      simp only [hhas, hknown, Bool.false_eq_true, if_false, put, Table.put_of_not_has hknown,
        List.map_append, List.map_singleton, raw]

/-- A mapping that is made of texts is accepted, and a later entry for a key takes
the place of the earlier one. -/
theorem tableRule_dictOf (entries : List (Text × Text)) :
    tableRule (Value.dictOf (entries.map fun entry => (.str entry.1, .str entry.2))) =
      .valid (Table.ofEntries entries) := by
  rw [dictOf_map_str, tableRule_dict (Table.nodup_keys_ofEntries entries)]

end Record

namespace Scheme.Plan

/-- What starts with a key and `=` has an `=`, and not in front. -/
theorem startsWithKey_iff {entry : Text} :
    startsWithKey false entry = true ↔ '=' ∈ entry ∧ entry.head? ≠ some '=' := by
  have hkeyed : ∀ rest : Text, startsWithKey true rest = true ↔ '=' ∈ rest := by
    intro rest
    induction rest with
    | nil => simp [startsWithKey]
    | cons c rest ih => by_cases hc : c = '=' <;> simp [startsWithKey, hc, ih, eq_comm]
  cases entry with
  | nil => simp [startsWithKey]
  | cons c rest => by_cases hc : c = '=' <;> simp [startsWithKey, hc, hkeyed, eq_comm]

/-- The raw fields of a plan for a written root. -/
def fields (root : Text) (plan : Plan) : Fields :=
  [ ("root_dir".toList, .str root),
    ("files".toList, .dict (plan.files.map fun file => (.str file.1, .str file.2))),
    ("args".toList, .tuple (plan.args.map .str)),
    ("env".toList, .tuple (plan.env.map .str)),
    ("stdin".toList, .str plan.stdin),
    ("stdout".toList, .str plan.stdout),
    ("stderr".toList, .str plan.stderr),
    ("return_code".toList, .int plan.returnCode),
    ("scheme".toList, .str plan.scheme) ]

/-- **Records**: the fields of a plan with entries of the right form are accepted,
and they make the plan again. -/
theorem ofFields_fields {root : Text} {plan : Plan} (hroot : plan.rootDir = Path.ofText root)
    (hfiles : (Table.keys plan.files).Nodup)
    (henv : ∀ entry ∈ plan.env, startsWithKey false entry = true) :
    ofFields (plan.fields root) = .valid plan := by
  have hdir : pathRule (.str root) = .valid plan.rootDir := by
    rw [hroot]
    rfl
  have hargs : listRule .notTuple textRule (.tuple (plan.args.map .str)) = .valid plan.args :=
    listRule_tuple .notTuple fun _ _ => rfl
  have hentries : listRule .notTuple (textOfFormRule (startsWithKey false))
      (.tuple (plan.env.map .str)) = .valid plan.env := by
    refine listRule_tuple .notTuple fun entry hentry => ?_
    simp [textOfFormRule, textRule, Checked.andThen, henv entry hentry]
  have honly : Fields.only ["root_dir", "files", "args", "env", "stdin", "stdout", "stderr",
      "return_code", "scheme"] (plan.fields root) = .valid () := by
    simp [Fields.only, fields]
  rw [ofFields, honly]
  simp [Fields.required, Fields.optional, fields, Table.get?_cons, hargs, hentries, hdir,
    tableRule_dict hfiles, textRule, integerRule, Checked.inside]
  rfl

end Scheme.Plan

end SchemeCheck
