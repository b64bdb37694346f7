import SchemeCheck.FileSystem.Path
import SchemeCheck.Proofs.Text.Lines

/-!
# SchemeCheck.Proofs.FileSystem.Path

Written paths read back.  The names of a path that has been read are not empty,
are not `.` and hold no slash, so joining them with slashes and reading them
again gives the same names (`namesOf_joinWith`), and the slashes in front are
those of the anchor (`anchorOf_append`).  A path that has been read is written
in one way only: `ofText_text`.
-/

namespace SchemeCheck

/-- Whether a written path starts at the root. -/
def Text.isRooted (text : Text) : Bool :=
  text.head? = some '/'

namespace Path

/-- A name that stands for itself in a written path. -/
def Standing (name : Text) : Prop :=
  '/' ∉ name ∧ name ≠ [] ∧ name ≠ ['.']

theorem standing_of_mem_namesOf {text name : Text} (h : name ∈ namesOf text) : Standing name := by
  obtain ⟨hpiece, hkept⟩ := List.mem_filter.mp h
  refine ⟨Text.not_mem_of_mem_splitOn hpiece, ?_, ?_⟩
  · rintro rfl
    simp at hkept
  · rintro rfl
    simp at hkept

/-! ## Names -/

@[simp] theorem namesOf_nil : namesOf [] = [] := by
  decide

theorem namesOf_append {name : Text} (h : Standing name) (rest : Text) :
    namesOf (name ++ '/' :: rest) = name :: namesOf rest := by
  rw [namesOf, Text.splitOn_append h.1, List.filter_cons_of_pos (by simp [h.2])]
  rfl

theorem namesOf_of_standing {name : Text} (h : Standing name) : namesOf name = [name] := by
  rw [namesOf, Text.splitOn_of_not_mem h.1, List.filter_cons_of_pos (by simp [h.2])]
  rfl

/-- A slash in front adds no name. -/
theorem namesOf_slash (rest : Text) : namesOf ('/' :: rest) = namesOf rest := by
  rw [namesOf, ← List.nil_append ('/' :: rest), Text.splitOn_append List.not_mem_nil]
  rfl

theorem namesOf_joinWith {names : List Text} (h : ∀ name ∈ names, Standing name) :
    namesOf (Text.joinWith ['/'] names) = names := by
  induction names with
  | nil => exact namesOf_nil
  | cons name rest ih =>
      obtain ⟨hname, hrest⟩ := List.forall_mem_cons.mp h
      unfold Text.joinWith at ih ⊢
      cases rest with
      | nil => rw [List.intercalate_singleton, namesOf_of_standing hname]
      | cons other rest =>
          rw [List.intercalate_cons_cons, List.append_assoc, List.singleton_append,
            namesOf_append hname, ih hrest]

/-- A character of a path that is no mark of the path stands in a name. -/
theorem any_contains_namesOf {c : Char} (hslash : c ≠ '/') (hdot : c ≠ '.') (text : Text) :
    (namesOf text).any (·.contains c) = true ↔ c ∈ text := by
  simp only [List.any_eq_true, List.contains_iff_mem]
  constructor
  · rintro ⟨name, hname, hc⟩
    exact (Text.infix_of_mem_splitOn (List.mem_filter.mp hname).1).mem hc
  · intro hc
    obtain ⟨name, hname, hc⟩ := Text.exists_mem_splitOn hslash hc
    refine ⟨name, List.mem_filter.mpr ⟨hname, ?_⟩, hc⟩
    have hempty : name ≠ [] := List.ne_nil_of_mem hc
    have hother : name ≠ ['.'] := fun e => hdot (List.mem_singleton.mp (e ▸ hc))
    simp [hempty, hother]

/-! ## Anchors -/

theorem anchorOf_append (anchor : Anchor) {rest : Text} (h : rest.head? ≠ some '/') :
    anchorOf (anchorText anchor ++ rest) = anchor := by
  have hnone : rest.takeWhile (· = '/') = [] := by
    cases rest with
    | nil => rfl
    | cons c rest =>
        have hc : c ≠ '/' := fun e => h (congrArg some e)
        simp [hc]
  cases anchor <;> simp [anchorOf, anchorText, hnone]

theorem namesOf_anchorText_append (anchor : Anchor) (rest : Text) :
    namesOf (anchorText anchor ++ rest) = namesOf rest := by
  cases anchor with
  | here => rfl
  | root => exact namesOf_slash rest
  | doubleRoot => exact (namesOf_slash _).trans (namesOf_slash rest)

theorem head?_joinWith {names : List Text} (h : ∀ name ∈ names, Standing name) :
    (Text.joinWith ['/'] names).head? ≠ some '/' := by
  cases names with
  | nil => exact nofun
  | cons name rest =>
      obtain ⟨hslash, hne, -⟩ := h name List.mem_cons_self
      obtain ⟨c, more, rfl⟩ := List.exists_cons_of_ne_nil hne
      have hc : c ≠ '/' := fun e => hslash (e ▸ List.mem_cons_self)
      cases rest <;>
        simp [Text.joinWith, List.intercalate_singleton, List.intercalate_cons_cons, hc]

theorem isAbsolute_ofText (text : Text) : (ofText text).isAbsolute = text.isRooted := by
  cases text with
  | nil => rfl
  | cons c rest =>
      by_cases hc : c = '/'
      · subst hc
        have hlength : (('/' :: rest).takeWhile (· = '/')).length =
            (rest.takeWhile (· = '/')).length + 1 := by
          simp
        simp only [isAbsolute, ofText, anchorOf, hlength, Text.isRooted]
        cases (rest.takeWhile (· = '/')).length with
        | zero => rfl
        | succ n => cases n <;> rfl
      · simp [isAbsolute, ofText, anchorOf, hc, Text.isRooted]

/-- A path seen from an absolute one is absolute. -/
theorem isAbsolute_join {path : Path} (h : path.isAbsolute = true) (below : Path) :
    (path.join below).isAbsolute = true := by
  unfold join
  split
  · assumption
  · exact h

/-! ## Reading back -/

/-- Every path but the empty one is written as its anchor and its names. -/
theorem text_eq {path : Path} (h : path ≠ { anchor := .here, names := [] }) :
    path.text = anchorText path.anchor ++ Text.joinWith ['/'] path.names := by
  obtain ⟨anchor, names⟩ := path
  cases anchor with
  | here =>
      cases names with
      | nil => exact absurd rfl h
      | cons name rest => rfl
  | root | doubleRoot => rfl

/-- A path whose names stand for themselves is what is read where it is written. -/
theorem ofText_text_of_standing {path : Path} (h : ∀ name ∈ path.names, Standing name) :
    ofText path.text = path := by
  by_cases hempty : path = { anchor := .here, names := [] }
  · rw [hempty]
    decide
  · rw [text_eq hempty]
    simp only [ofText, anchorOf_append _ (head?_joinWith h), namesOf_anchorText_append,
      namesOf_joinWith h]

/-- **A path that has been read is what is read where it is written.** -/
theorem ofText_text (location : Text) : ofText (ofText location).text = ofText location :=
  ofText_text_of_standing fun _ => standing_of_mem_namesOf

/-- So is one path seen from another. -/
theorem ofText_text_join (location below : Text) :
    ofText ((ofText location).join (ofText below)).text =
      (ofText location).join (ofText below) := by
  refine ofText_text_of_standing fun name hname => ?_
  unfold join at hname
  split at hname
  · exact standing_of_mem_namesOf hname
  · exact (List.mem_append.mp hname).elim standing_of_mem_namesOf standing_of_mem_namesOf

end Path

end SchemeCheck
