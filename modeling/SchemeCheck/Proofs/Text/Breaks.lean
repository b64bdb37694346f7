import SchemeCheck.Proofs.Text.Lines
import SchemeCheck.Text.Breaks

/-!
# SchemeCheck.Proofs.Text.Breaks

The rows of a text and its lines.  Rows are read from the right
(`RowsRight.cons`); here they get the equations of a reading from the left: an
unbroken text is put in front of the row to its right (`rows_foldr_cons`), and a
row ends where a line does (`rows_append_cons`, `rows_of_last`).  Rows also end at
characters that end no line, so the two are the same exactly if no line holds
one of these: `rows_eq_lineBodies_iff`.
-/

namespace SchemeCheck.Text

/-- A text in which no row ends. -/
def Unbroken (text : Text) : Prop :=
  ∀ c ∈ text, isRowBreak c = false

instance : DecidablePred Unbroken :=
  fun text => List.decidableBAll (fun c => isRowBreak c = false) text

/-! ## Reading from the right -/

namespace RowsRight

/-- The rows to the right of a place. -/
def rows (right : RowsRight) : List Text :=
  right.current.toList ++ right.below

/-- The end of a text. -/
def atEnd : RowsRight :=
  { current := none, below := [], atLineFeed := false }

/-- At a line feed a row ends. -/
theorem cons_lineFeed (right : RowsRight) :
    right.cons '\n' = { current := some [], below := right.rows, atLineFeed := true } := rfl

/-- A carriage return before it is part of the same end. -/
theorem cons_return_cons_lineFeed (right : RowsRight) :
    (right.cons '\n').cons '\r' =
      { current := some [], below := right.rows, atLineFeed := false } := rfl

/-- A character that is no break belongs to the row to its right, or begins one. -/
theorem cons_of_unbroken {c : Char} (h : isRowBreak c = false) (right : RowsRight) :
    right.cons c =
      { current := some (c :: right.current.getD []), below := right.below
        atLineFeed := false } := by
  simp [cons, h]

/-- An unbroken text is put in front of the row to its right. -/
theorem rows_foldr_cons {body : Text} (h : Unbroken body) {right : RowsRight} {row : Text}
    (hcurrent : right.current = some row) :
    (body.foldr cons right).rows = (body ++ row) :: right.below := by
  suffices hfold : (body.foldr cons right).current = some (body ++ row) ∧
      (body.foldr cons right).below = right.below by
    rw [rows, hfold.1, hfold.2]
    rfl
  induction body with
  | nil => exact ⟨hcurrent, rfl⟩
  | cons c rest ih =>
      obtain ⟨hc, hrest⟩ := List.forall_mem_cons.mp h
      obtain ⟨hrow, hbelow⟩ := ih hrest
      rw [List.foldr_cons, cons_of_unbroken hc, hrow]
      exact ⟨rfl, hbelow⟩

/-- **Step**: one more character puts no break into a row. -/
theorem unbroken_cons {right : RowsRight} (h : ∀ row ∈ right.rows, Unbroken row) (c : Char) :
    ∀ row ∈ (right.cons c).rows, Unbroken row := by
  obtain ⟨current, below, atLineFeed⟩ := right
  obtain ⟨hcurrent, hbelow⟩ := List.forall_mem_append.mp h
  cases hc : isRowBreak c with
  | true =>
      simp only [cons, hc, if_true]
      split
      · exact h
      · exact List.forall_mem_cons.mpr ⟨nofun, h⟩
  | false =>
      rw [cons_of_unbroken hc]
      refine List.forall_mem_cons.mpr ⟨List.forall_mem_cons.mpr ⟨hc, ?_⟩, hbelow⟩
      cases current with
      | none => exact nofun
      | some row => exact hcurrent row List.mem_cons_self

end RowsRight

open RowsRight (atEnd)

theorem rows_eq (text : Text) : rows text = (text.foldr RowsRight.cons atEnd).rows := rfl

/-- **Run**: no row holds a break. -/
theorem unbroken_of_mem_rows {text : Text} : ∀ row ∈ rows text, Unbroken row := by
  rw [rows_eq]
  induction text with
  | nil => exact nofun
  | cons c rest ih => exact RowsRight.unbroken_cons ih c

/-- A text that is not empty has a first row. -/
theorem rows_ne_nil {text : Text} (h : text ≠ []) : rows text ≠ [] := by
  suffices hcurrent : (text.foldr RowsRight.cons atEnd).current.isSome = true by
    obtain ⟨row, hrow⟩ := Option.isSome_iff_exists.mp hcurrent
    simp [rows_eq, RowsRight.rows, hrow]
  induction text with
  | nil => exact absurd rfl h
  | cons c rest ih =>
      rw [List.foldr_cons, RowsRight.cons]
      split
      · split
        · next hpair =>
          -- the line feed after a carriage return stands in the rest
          refine ih fun hrest => ?_
          rw [hrest] at hpair
          exact absurd hpair (by simp [atEnd])
        · rfl
      · rfl

/-! ## Reading from the left -/

/-- What ends a line also ends a row. -/
theorem rows_append_cons {body : Text} (h : Unbroken (chomp '\r' body)) (rest : Text) :
    rows (body ++ '\n' :: rest) = chomp '\r' body :: rows rest := by
  by_cases hlast : body.getLast? = some '\r'
  · obtain ⟨front, rfl⟩ := List.getLast?_eq_some_iff.mp hlast
    rw [chomp_append_singleton] at h ⊢
    rw [rows_eq, List.foldr_append, List.foldr_append, List.foldr_cons, List.foldr_cons,
      List.foldr_nil, RowsRight.cons_return_cons_lineFeed, RowsRight.rows_foldr_cons h rfl,
      List.append_nil, ← rows_eq]
  · rw [chomp_eq_self_iff.mpr hlast] at h ⊢
    rw [rows_eq, List.foldr_append, List.foldr_cons, RowsRight.cons_lineFeed,
      RowsRight.rows_foldr_cons h rfl, List.append_nil, ← rows_eq]

/-- So does the end of the text, where a carriage return is dropped as well. -/
theorem rows_of_last {body : Text} (h : Unbroken (chomp '\r' body)) (hne : body ≠ []) :
    rows body = [chomp '\r' body] := by
  obtain rfl | ⟨front, c, rfl⟩ := List.eq_nil_or_concat body
  · exact absurd rfl hne
  · by_cases hc : c = '\r'
    · subst hc
      rw [List.concat_eq_append, chomp_append_singleton] at h ⊢
      rw [rows_eq, List.foldr_append]
      have hreturn : ['\r'].foldr RowsRight.cons atEnd =
          { current := some [], below := [], atLineFeed := false } := rfl
      rw [hreturn, RowsRight.rows_foldr_cons h rfl, List.append_nil]
    · rw [List.concat_eq_append] at h ⊢
      have hkept : chomp '\r' (front ++ [c]) = front ++ [c] :=
        chomp_eq_self_iff.mpr (by simp [hc])
      rw [hkept] at h ⊢
      obtain ⟨hfront, hlast⟩ := List.forall_mem_append.mp h
      rw [rows_eq, List.foldr_append, List.foldr_cons, List.foldr_nil,
        RowsRight.cons_of_unbroken (hlast c List.mem_cons_self),
        RowsRight.rows_foldr_cons hfront rfl]
      rfl

/-- **Rows and lines**: the rows of a text are its lines exactly if no line holds a
character that ends a row. -/
theorem rows_eq_lineBodies_iff {text : Text} :
    rows text = lineBodies text ↔ ∀ body ∈ lineBodies text, Unbroken body := by
  constructor
  · intro h
    rw [← h]
    exact unbroken_of_mem_rows
  · intro h
    unfold lineBodies at h ⊢
    induction text using line_induction '\n' with
    | last body hbody =>
        rw [cutLines_of_not_mem hbody] at h ⊢
        by_cases hnil : body = []
        · rw [if_pos hnil, hnil]
          rfl
        · rw [if_neg hnil] at h ⊢
          exact rows_of_last (h _ List.mem_cons_self) hnil
    | line body rest hbody ih =>
        rw [cutLines_append hbody] at h ⊢
        obtain ⟨hfirst, hrest⟩ := List.forall_mem_cons.mp h
        rw [rows_append_cons hfirst, ih hrest]

end SchemeCheck.Text
