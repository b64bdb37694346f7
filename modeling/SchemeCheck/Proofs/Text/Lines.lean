import SchemeCheck.Text.Lines
import SchemeCheck.Proofs.Text.Rewriting

/-!
# SchemeCheck.Proofs.Text.Lines

The theory of line segmentation.  A text is a row of bodies without line
feeds, each closed by a line feed, with at most one open body at the end;
`line_induction` is the induction along this shape, and every law of
`Text.cutLines` goes through its two equations (`cutLines_of_not_mem`,
`cutLines_append`).

The main statement is that segmentation sees a text only up to its canonical
form, in which the last line is closed and every carriage return before a line
feed is gone: `closeLines_cutLines` (the closed lines are the canonical form) and
`cutLines_eq_iff` (equal lines are equal canonical forms).  Segmenting closed
lines again drops one more carriage return of each (`cutLines_closeLines`).

All laws are for any kind of symbol, as the definitions are.
-/

namespace SchemeCheck.Text

variable {σ : Type}

/-! ## Induction along the lines -/

/-- Every text is one open body, or a body closed by a line feed and a text. -/
theorem line_induction {motive : List σ → Prop} (lf : σ)
    (last : ∀ body, lf ∉ body → motive body)
    (line : ∀ body rest, lf ∉ body → motive rest → motive (body ++ lf :: rest))
    (xs : List σ) : motive xs := by
  induction h : xs.length using Nat.strongRecOn generalizing xs with
  | ind n ih =>
      by_cases hmem : lf ∈ xs
      · obtain ⟨body, rest, rfl, hbody⟩ := List.eq_append_cons_of_mem hmem
        have hlt : rest.length < n := by
          rw [← h, List.length_append, List.length_cons]
          omega
        exact line body rest hbody (ih rest.length hlt rest rfl)
      · exact last xs hmem

/-! ## Bodies and their closed lines -/

/-- The text of some line bodies, each closed by a line feed. -/
def closeLines (lf : σ) (bodies : List (List σ)) : List σ :=
  bodies.flatMap (· ++ [lf])

@[simp] theorem closeLines_nil (lf : σ) : closeLines lf [] = [] := rfl

@[simp] theorem closeLines_cons (lf : σ) (body : List σ) (bodies : List (List σ)) :
    closeLines lf (body :: bodies) = body ++ lf :: closeLines lf bodies := by
  simp [closeLines]

/-- Lines that are joined and followed by a line feed are closed. -/
theorem joinWith_append_cons {bodies : List (List σ)} (h : bodies ≠ []) (lf : σ) (rest : List σ) :
    joinWith [lf] bodies ++ lf :: rest = closeLines lf bodies ++ rest := by
  induction bodies with
  | nil => exact absurd rfl h
  | cons body more ih =>
      cases more with
      | nil => simp [joinWith, List.intercalate_singleton]
      | cons next others =>
          rw [joinWith] at ih ⊢
          rw [List.intercalate_cons_cons, List.append_assoc, ih (List.cons_ne_nil _ _),
            closeLines_cons]
          simp

theorem dropEmptyLast_cons {chunk : List σ} {chunks : List (List σ)} (h : chunks ≠ []) :
    dropEmptyLast (chunk :: chunks) = chunk :: dropEmptyLast chunks := by
  obtain ⟨next, others, rfl⟩ := List.exists_cons_of_ne_nil h
  unfold dropEmptyLast
  rw [List.getLast?_cons_cons]
  split
  · rw [List.dropLast_cons_cons]
  · rfl

/-- A text that goes on after a line feed ends as what follows it. -/
theorem getLast?_append_cons {lf : σ} {rest : List σ} (hrest : rest ≠ []) (body : List σ) :
    (body ++ lf :: rest).getLast? = rest.getLast? := by
  obtain ⟨x, more, rfl⟩ := List.exists_cons_of_ne_nil hrest
  rw [List.append_cons, List.getLast?_append, List.getLast?_cons]
  rfl

/-! ## Splitting -/

variable [DecidableEq σ]

theorem splitOn_ne_nil (sep : σ) (xs : List σ) : splitOn sep xs ≠ [] := by
  simp [splitOn]

/-- A text without the separator is one piece. -/
theorem splitOn_of_not_mem {sep : σ} {xs : List σ} (h : sep ∉ xs) : splitOn sep xs = [xs] := by
  induction xs with
  | nil => rfl
  | cons x rest ih =>
      have hx : x ≠ sep := fun e => h (e ▸ List.mem_cons_self)
      have hrest := ih fun hm => h (List.mem_cons_of_mem x hm)
      simp only [splitOn, List.cons.injEq] at hrest
      simp [splitOn, pieces, hx] at hrest ⊢
      exact hrest

/-- The first piece ends at the first separator. -/
theorem splitOn_append {sep : σ} {xs : List σ} (h : sep ∉ xs) (ys : List σ) :
    splitOn sep (xs ++ sep :: ys) = xs :: splitOn sep ys := by
  induction xs with
  | nil => simp [splitOn, pieces]
  | cons x rest ih =>
      have hx : x ≠ sep := fun e => h (e ▸ List.mem_cons_self)
      have hrest := ih fun hm => h (List.mem_cons_of_mem x hm)
      simp [splitOn, pieces, hx] at hrest ⊢
      exact hrest

/-- No piece holds the separator. -/
theorem not_mem_of_mem_splitOn {sep : σ} {xs piece : List σ} (h : piece ∈ splitOn sep xs) :
    sep ∉ piece := by
  induction xs using line_induction sep with
  | last body hbody =>
      rw [splitOn_of_not_mem hbody, List.mem_singleton] at h
      rw [h]
      exact hbody
  | line body rest hbody ih =>
      rw [splitOn_append hbody, List.mem_cons] at h
      cases h with
      | inl he => rw [he]; exact hbody
      | inr hr => exact ih hr

/-- Every piece stands in the text. -/
theorem infix_of_mem_splitOn {sep : σ} {xs piece : List σ} (h : piece ∈ splitOn sep xs) :
    piece <:+: xs := by
  induction xs using line_induction sep with
  | last body hbody =>
      rw [splitOn_of_not_mem hbody, List.mem_singleton] at h
      subst h
      exact List.infix_rfl
  | line body rest hbody ih =>
      rw [splitOn_append hbody, List.mem_cons] at h
      cases h with
      | inl he =>
          rw [he]
          exact (List.prefix_append body _).isInfix
      | inr hr =>
          have hrest : rest <:+ body ++ sep :: rest := ⟨body ++ [sep], by simp⟩
          exact (ih hr).trans hrest.isInfix

/-- What is not the separator stands in a piece. -/
theorem exists_mem_splitOn {sep x : σ} (hne : x ≠ sep) {xs : List σ} (h : x ∈ xs) :
    ∃ piece ∈ splitOn sep xs, x ∈ piece := by
  induction xs using line_induction sep with
  | last body hbody => exact ⟨body, by simp [splitOn_of_not_mem hbody], h⟩
  | line body rest hbody ih =>
      rw [splitOn_append hbody]
      rcases List.mem_append.mp h with hin | hout
      · exact ⟨body, List.mem_cons_self, hin⟩
      · obtain ⟨piece, hpiece, hx⟩ := ih ((List.mem_cons.mp hout).resolve_left hne)
        exact ⟨piece, List.mem_cons_of_mem body hpiece, hx⟩

/-- A text is its pieces with the separator between them. -/
theorem joinWith_splitOn (sep : σ) (xs : List σ) : joinWith [sep] (splitOn sep xs) = xs := by
  induction xs using line_induction sep with
  | last body hbody =>
      rw [splitOn_of_not_mem hbody, joinWith, List.intercalate_singleton]
  | line body rest hbody ih =>
      obtain ⟨piece, more, hpieces⟩ := List.exists_cons_of_ne_nil (splitOn_ne_nil sep rest)
      rw [joinWith, hpieces] at ih
      rw [splitOn_append hbody, hpieces, joinWith, List.intercalate_cons_cons, ih,
        List.append_assoc, List.singleton_append]

/-- The last piece ends as the text does. -/
theorem getLast?_splitOn_concat {sep x : σ} (h : x ≠ sep) (xs : List σ) :
    ∃ piece, (splitOn sep (xs ++ [x])).getLast? = some (piece ++ [x]) := by
  induction xs using line_induction sep with
  | last body hbody =>
      have hlast : sep ∉ body ++ [x] := by simp [hbody, h.symm]
      exact ⟨body, by rw [splitOn_of_not_mem hlast, List.getLast?_singleton]⟩
  | line body rest hbody ih =>
      obtain ⟨piece, hpiece⟩ := ih
      refine ⟨piece, ?_⟩
      rw [List.append_assoc, List.cons_append, splitOn_append hbody, List.getLast?_cons, hpiece,
        Option.getD_some]

/-! ## Bodies -/

theorem chomp_isPrefix (cr : σ) (line : List σ) : chomp cr line <+: line := by
  unfold chomp
  split
  · exact List.dropLast_prefix line
  · exact List.prefix_rfl

/-- One carriage return is dropped at the end. -/
theorem chomp_append_singleton (cr : σ) (line : List σ) : chomp cr (line ++ [cr]) = line := by
  simp [chomp]

theorem chomp_cons_cons (cr x y : σ) (rest : List σ) :
    chomp cr (x :: y :: rest) = x :: chomp cr (y :: rest) := by
  unfold chomp
  rw [List.getLast?_cons_cons]
  split
  · rw [List.dropLast_cons_cons]
  · rfl

/-- A line keeps its end exactly if that is no carriage return. -/
theorem chomp_eq_self_iff {cr : σ} {line : List σ} :
    chomp cr line = line ↔ line.getLast? ≠ some cr := by
  unfold chomp
  split
  · next hlast =>
    obtain ⟨front, rfl⟩ := List.getLast?_eq_some_iff.mp hlast
    simp
  · next hlast => simp [hlast]

/-- A line still ends in a carriage return after losing one exactly if it ended
in two. -/
theorem getLast?_chomp_iff {cr : σ} {line : List σ} :
    (chomp cr line).getLast? = some cr ↔ [cr, cr] <:+ line := by
  by_cases hlast : line.getLast? = some cr
  · obtain ⟨front, rfl⟩ := List.getLast?_eq_some_iff.mp hlast
    rw [chomp_append_singleton, List.getLast?_eq_some_iff]
    constructor
    · rintro ⟨start, rfl⟩
      exact ⟨start, by simp⟩
    · rintro ⟨start, hstart⟩
      exact ⟨start, List.append_cancel_right (by simpa using hstart.symm)⟩
  · rw [chomp_eq_self_iff.mpr hlast]
    constructor
    · intro h
      exact absurd h hlast
    · rintro ⟨start, rfl⟩
      simp at hlast

/-- A closed line is the first line. -/
theorem cutLines_append {lf : σ} {body : List σ} (h : lf ∉ body) (cr : σ) (rest : List σ) :
    cutLines lf cr (body ++ lf :: rest) = chomp cr body :: cutLines lf cr rest := by
  rw [cutLines, splitOn_append h, dropEmptyLast_cons (splitOn_ne_nil lf rest), List.map_cons,
    cutLines]

/-- An open body is a line unless it is empty. -/
theorem cutLines_of_not_mem {lf : σ} {body : List σ} (h : lf ∉ body) (cr : σ) :
    cutLines lf cr body = if body = [] then [] else [chomp cr body] := by
  rw [cutLines, splitOn_of_not_mem h]
  cases body with
  | nil => rfl
  | cons x rest => simp [dropEmptyLast]

/-- Behind a text whose last line is closed, segmentation starts anew. -/
theorem cutLines_append_of_closed {lf : σ} {xs : List σ} (h : xs = [] ∨ xs.getLast? = some lf)
    (cr : σ) (ys : List σ) :
    cutLines lf cr (xs ++ ys) = cutLines lf cr xs ++ cutLines lf cr ys := by
  induction xs using line_induction lf with
  | last body hbody =>
      have hnil : body = [] := h.resolve_right fun hlast => hbody (List.mem_of_getLast? hlast)
      rw [hnil]
      rfl
  | line body rest hbody ih =>
      have hrest : rest = [] ∨ rest.getLast? = some lf := by
        by_cases hnil : rest = []
        · exact .inl hnil
        · rw [← getLast?_append_cons hnil body]
          exact .inr (h.resolve_left (by simp))
      rw [List.append_assoc, List.cons_append, cutLines_append hbody, cutLines_append hbody,
        ih hrest, List.cons_append]

/-- A line body is one of the pieces without its carriage return. -/
theorem exists_of_mem_cutLines {lf cr : σ} {xs body : List σ} (h : body ∈ cutLines lf cr xs) :
    ∃ piece ∈ splitOn lf xs, body = chomp cr piece := by
  obtain ⟨piece, hpiece, rfl⟩ := List.mem_map.mp h
  refine ⟨piece, ?_, rfl⟩
  unfold dropEmptyLast at hpiece
  split at hpiece
  · exact (List.dropLast_prefix _).subset hpiece
  · exact hpiece

/-- No line body holds a line feed. -/
theorem not_mem_of_mem_cutLines {lf cr : σ} {xs body : List σ} (h : body ∈ cutLines lf cr xs) :
    lf ∉ body := by
  obtain ⟨piece, hpiece, rfl⟩ := exists_of_mem_cutLines h
  exact fun hm => not_mem_of_mem_splitOn hpiece ((chomp_isPrefix cr piece).mem hm)

/-- Every line body stands in the text. -/
theorem infix_of_mem_cutLines {lf cr : σ} {xs body : List σ} (h : body ∈ cutLines lf cr xs) :
    body <:+: xs := by
  obtain ⟨piece, hpiece, rfl⟩ := exists_of_mem_cutLines h
  exact (chomp_isPrefix cr piece).isInfix.trans (infix_of_mem_splitOn hpiece)

/-- The lines lose nothing more exactly if no piece ends in two carriage
returns. -/
theorem map_chomp_cutLines_iff {lf cr : σ} {xs : List σ} :
    (cutLines lf cr xs).map (chomp cr) = cutLines lf cr xs ↔
      ∀ piece ∈ splitOn lf xs, ¬ [cr, cr] <:+ piece := by
  have hchomp : ∀ piece : List σ,
      chomp cr (chomp cr piece) = chomp cr piece ↔ ¬ [cr, cr] <:+ piece := by
    intro piece
    rw [chomp_eq_self_iff, ne_eq, getLast?_chomp_iff]
  induction xs using line_induction lf with
  | last body hbody =>
      rw [cutLines_of_not_mem hbody, splitOn_of_not_mem hbody]
      by_cases hnil : body = []
      · simp [hnil]
      · simp [hnil, hchomp]
  | line body rest hbody ih =>
      rw [cutLines_append hbody, splitOn_append hbody, List.map_cons, List.cons.injEq, hchomp,
        List.forall_mem_cons]
      exact and_congr_right fun _ => ih

/-! ## Closed lines -/

/-- Closed lines are the first pieces of a text. -/
theorem splitOn_closeLines_append {lf : σ} {bodies : List (List σ)} (h : ∀ body ∈ bodies, lf ∉ body)
    (rest : List σ) : splitOn lf (closeLines lf bodies ++ rest) = bodies ++ splitOn lf rest := by
  induction bodies with
  | nil => rfl
  | cons body more ih =>
      obtain ⟨hbody, hmore⟩ := List.forall_mem_cons.mp h
      rw [closeLines_cons, List.append_assoc, List.cons_append, splitOn_append hbody, ih hmore,
        List.cons_append]

/-- Bodies without line feeds can be told from their closed lines. -/
theorem closeLines_inj {lf : σ} {xs ys : List (List σ)} (hx : ∀ body ∈ xs, lf ∉ body)
    (hy : ∀ body ∈ ys, lf ∉ body) (h : closeLines lf xs = closeLines lf ys) : xs = ys := by
  have hpieces : xs ++ splitOn lf [] = ys ++ splitOn lf [] := by
    rw [← splitOn_closeLines_append hx, ← splitOn_closeLines_append hy, h]
  exact List.append_cancel_right hpieces

/-- Segmenting closed lines takes one more carriage return off each of them. -/
theorem cutLines_closeLines {lf : σ} (cr : σ) {bodies : List (List σ)}
    (h : ∀ body ∈ bodies, lf ∉ body) :
    cutLines lf cr (closeLines lf bodies) = bodies.map (chomp cr) := by
  induction bodies with
  | nil => rfl
  | cons body rest ih =>
      rw [closeLines_cons, cutLines_append (h body List.mem_cons_self), List.map_cons,
        ih fun b hm => h b (List.mem_cons_of_mem body hm)]

/-! ## Other symbols -/

section Map

variable {τ : Type} [DecidableEq τ] {f : σ → τ}

theorem chomp_map (hf : Function.Injective f) (cr : σ) (line : List σ) :
    chomp (f cr) (line.map f) = (chomp cr line).map f := by
  have hlast : (line.map f).getLast? = some (f cr) ↔ line.getLast? = some cr := by
    rw [List.getLast?_map]
    cases line.getLast? with
    | none => simp
    | some x => simp [hf.eq_iff]
  unfold chomp
  simp only [hlast]
  split
  · exact List.map_dropLast.symm
  · rfl

/-- Segmentation does not look at what the symbols stand for. -/
theorem cutLines_map (hf : Function.Injective f) (lf cr : σ) (xs : List σ) :
    cutLines (f lf) (f cr) (xs.map f) = (cutLines lf cr xs).map (List.map f) := by
  have hmem : ∀ {body : List σ}, lf ∉ body → f lf ∉ body.map f := by
    intro body hbody hm
    obtain ⟨x, hx, he⟩ := List.mem_map.mp hm
    exact hbody (hf he ▸ hx)
  induction xs using line_induction lf with
  | last body hbody =>
      rw [cutLines_of_not_mem hbody, cutLines_of_not_mem (hmem hbody), chomp_map hf]
      cases body <;> rfl
  | line body rest hbody ih =>
      rw [List.map_append, List.map_cons, cutLines_append hbody, cutLines_append (hmem hbody), ih,
        chomp_map hf, List.map_cons]

end Map

/-! ## The canonical form -/

/-- The text with its last line closed.  The empty text has no line. -/
def closed (lf : σ) (xs : List σ) : List σ :=
  if xs = [] ∨ xs.getLast? = some lf then xs else xs ++ [lf]

/-- The text with its last line closed and every pair of a carriage return and
a line feed replaced by the line feed. -/
def canonical (lf cr : σ) (xs : List σ) : List σ :=
  replaceAll [cr, lf] [lf] (closed lf xs)

/-- Of a closed body, replacement of the pair drops just the carriage return
before the line feed. -/
theorem replaceAll_pair_append {lf cr : σ} (hne : cr ≠ lf) {body : List σ} (h : lf ∉ body)
    (rest : List σ) :
    replaceAll [cr, lf] [lf] (body ++ lf :: rest) =
      chomp cr body ++ lf :: replaceAll [cr, lf] [lf] rest := by
  induction body with
  | nil =>
      have hfront : ¬ [cr, lf] <+: lf :: rest := fun hp => hne (List.cons_prefix_cons.mp hp).1
      rw [List.nil_append, replaceAll_cons hfront]
      rfl
  | cons x more ih =>
      have hmore : lf ∉ more := fun hm => h (List.mem_cons_of_mem x hm)
      cases more with
      | nil =>
          by_cases hx : x = cr
          · subst hx
            have happ := replaceAll_append (List.cons_ne_nil x [lf]) [lf] rest
            simpa [chomp] using happ
          · have hfront : ¬ [cr, lf] <+: x :: lf :: rest := fun hp =>
              hx (List.cons_prefix_cons.mp hp).1.symm
            have hchomp : chomp cr [x] = [x] := chomp_eq_self_iff.mpr (by simpa using hx)
            rw [List.cons_append, replaceAll_cons (by simpa using hfront), ih hmore, hchomp]
            rfl
      | cons y others =>
          have hy : lf ≠ y := fun e => hmore (e ▸ List.mem_cons_self)
          have hfront : ¬ [cr, lf] <+: x :: (y :: others ++ lf :: rest) := fun hp =>
            hy (List.cons_prefix_cons.mp (List.cons_prefix_cons.mp hp).2).1
          rw [List.cons_append, replaceAll_cons hfront, ih hmore, chomp_cons_cons,
            List.cons_append]

/-- Closing the last line leaves the lines before it alone. -/
theorem closed_append (lf : σ) (body rest : List σ) :
    closed lf (body ++ lf :: rest) = body ++ lf :: closed lf rest := by
  cases rest with
  | nil => simp [closed]
  | cons x more =>
      unfold closed
      rw [getLast?_append_cons (List.cons_ne_nil x more)]
      split <;> split <;> simp_all

/-- **Closed form**: the closed lines of a text are its canonical form. -/
theorem closeLines_cutLines {lf cr : σ} (hne : cr ≠ lf) (xs : List σ) :
    closeLines lf (cutLines lf cr xs) = canonical lf cr xs := by
  induction xs using line_induction lf with
  | last body hbody =>
      cases body with
      | nil => simp [cutLines_of_not_mem, canonical, closed]
      | cons x more =>
          have hlast : (x :: more).getLast? ≠ some lf := fun hl =>
            hbody (List.mem_of_getLast? hl)
          have hclosed : closed lf (x :: more) = (x :: more) ++ [lf] := by
            simp [closed, hlast]
          rw [cutLines_of_not_mem hbody, if_neg (List.cons_ne_nil x more), canonical, hclosed,
            replaceAll_pair_append hne hbody, replaceAll_nil, closeLines_cons, closeLines_nil]
  | line body rest hbody ih =>
      rw [cutLines_append hbody, closeLines_cons, ih, canonical, canonical, closed_append,
        replaceAll_pair_append hne hbody]

/-- The lines of a text one after another are its canonical form. -/
theorem flatten_lines (text : Text) : (lines text).flatten = canonical '\n' '\r' text := by
  rw [← closeLines_cutLines (by decide), lines, ← List.flatMap_def]
  rfl

/-- **Two texts have the same lines exactly if they have the same canonical
form.** -/
theorem cutLines_eq_iff {lf cr : σ} (hne : cr ≠ lf) {xs ys : List σ} :
    cutLines lf cr xs = cutLines lf cr ys ↔ canonical lf cr xs = canonical lf cr ys := by
  rw [← closeLines_cutLines hne, ← closeLines_cutLines hne]
  constructor
  · intro h
    rw [h]
  · exact closeLines_inj (fun _ hb => not_mem_of_mem_cutLines hb)
      (fun _ hb => not_mem_of_mem_cutLines hb)

end SchemeCheck.Text
