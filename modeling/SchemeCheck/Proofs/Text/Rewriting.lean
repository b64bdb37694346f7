import SchemeCheck.Placeholder

/-!
# SchemeCheck.Proofs.Text.Rewriting

Laws of rewriting from left to right.  `Text.sweep` carries what it has
written in an accumulator and counts the items that are covered; here both are
taken out of the way once, and `Text.replaceAll` gets the two equations of a
recursion on the text: an occurrence at the front is replaced as a whole, any
other front item is kept.  Whatever is proved by these two goes by
`replaceAll_induction`.
-/

namespace SchemeCheck.Text

variable {σ τ : Type}

/-! ## The accumulator -/

/-- What has been written comes first, and what is covered does not matter. -/
theorem sweep_eq (f : σ → List σ → List τ × Nat) (covered : Nat) (written : List τ)
    (xs : List σ) :
    sweep f covered written xs = written.reverse ++ sweep f 0 [] (xs.drop covered) := by
  induction xs generalizing covered written with
  | nil => cases covered <;> simp [sweep]
  | cons x rest ih =>
      cases covered with
      | succ covered => rw [sweep, ih, List.drop_succ_cons]
      | zero =>
          have hstep : sweep f 0 [] (x :: rest) =
              (f x rest).1 ++ sweep f 0 [] (rest.drop (f x rest).2) := by
            rw [sweep, ih]
            simp
          rw [sweep, ih, List.drop_zero, hstep]
          simp

/-- One step of a sweep: what `f` writes, and the sweep of what it leaves. -/
theorem sweep_cons (f : σ → List σ → List τ × Nat) (x : σ) (rest : List σ) :
    sweep f 0 [] (x :: rest) = (f x rest).1 ++ sweep f 0 [] (rest.drop (f x rest).2) := by
  rw [sweep, sweep_eq]
  simp

/-! ## Replacement -/

variable [DecidableEq σ]

@[simp] theorem replaceAll_nil (old new : List σ) : replaceAll old new [] = [] := by
  simp [replaceAll, sweep]

/-- An item at which no occurrence starts is kept. -/
theorem replaceAll_cons {old : List σ} {x : σ} {xs : List σ} (h : ¬ old <+: x :: xs)
    (new : List σ) : replaceAll old new (x :: xs) = x :: replaceAll old new xs := by
  have hfront : old.isPrefixOf (x :: xs) = false := by
    rw [← Bool.not_eq_true, List.isPrefixOf_iff_prefix]
    exact h
  rw [replaceAll, sweep_cons]
  simp [hfront, replaceAll]

/-- An occurrence at the front is replaced, and the search goes on behind it. -/
theorem replaceAll_append {old : List σ} (h : old ≠ []) (new xs : List σ) :
    replaceAll old new (old ++ xs) = new ++ replaceAll old new xs := by
  obtain ⟨x, rest, rfl⟩ := List.exists_cons_of_ne_nil h
  have hfront : (x :: rest).isPrefixOf (x :: (rest ++ xs)) = true := by
    simp
  rw [replaceAll, List.cons_append, sweep_cons]
  simp only [hfront, if_true, List.length_cons, Nat.add_sub_cancel, List.drop_left]
  rfl

/-- A text without an occurrence stays as it is. -/
theorem replaceAll_of_not_infix {old xs : List σ} (h : ¬ old <:+: xs) (new : List σ) :
    replaceAll old new xs = xs := by
  induction xs with
  | nil => exact replaceAll_nil old new
  | cons x rest ih =>
      have hfront : ¬ old <+: x :: rest := fun hp => h hp.isInfix
      have hrest : ¬ old <:+: rest := fun hi => h (hi.trans (List.suffix_cons x rest).isInfix)
      rw [replaceAll_cons hfront, ih hrest]

/-- The cases of replacement: the text ends, starts with an occurrence, or
starts with an item that is kept. -/
@[elab_as_elim] theorem replaceAll_induction {old : List σ} (h : old ≠ [])
    {motive : List σ → Prop} (nil : motive [])
    (occurrence : ∀ xs, motive xs → motive (old ++ xs))
    (kept : ∀ x xs, ¬ old <+: x :: xs → motive xs → motive (x :: xs)) (xs : List σ) :
    motive xs := by
  induction hlength : xs.length using Nat.strongRecOn generalizing xs with
  | ind n ih =>
    subst hlength
    cases xs with
    | nil => exact nil
    | cons x rest =>
        by_cases hfront : old <+: x :: rest
        · obtain ⟨ys, hys⟩ := hfront
          have hshorter : ys.length < (x :: rest).length := by
            have hpos := List.length_pos_iff.mpr h
            rw [← hys, List.length_append]
            omega
          rw [← hys]
          exact occurrence ys (ih ys.length hshorter ys rfl)
        · exact kept x rest hfront (ih rest.length (Nat.lt_succ_self _) rest rfl)

/-- What is replaced by itself stays. -/
theorem replaceAll_self {old : List σ} (h : old ≠ []) (xs : List σ) :
    replaceAll old old xs = xs := by
  induction xs using replaceAll_induction h with
  | nil => exact replaceAll_nil old old
  | occurrence xs ih => rw [replaceAll_append h, ih]
  | kept x xs hfront ih => rw [replaceAll_cons hfront, ih]

omit [DecidableEq σ] in
/-- An occurrence does not reach over an item that it does not have. -/
theorem isPrefix_of_isPrefix_append_cons {old xs ys : List σ} {x : σ} (hx : x ∉ old)
    (h : old <+: xs ++ x :: ys) : old <+: xs := by
  obtain hshort | ⟨more, rfl⟩ :=
    List.prefix_or_prefix_of_prefix h (List.prefix_append xs (x :: ys))
  · exact hshort
  · rw [List.prefix_append_right_inj] at h
    cases more with
    | nil => simp
    | cons y more =>
        have hy : y = x := (List.cons_prefix_cons.mp h).1
        exact absurd (hy ▸ by simp) hx

/-- An item that no occurrence has cuts the text in two. -/
theorem replaceAll_append_cons {old : List σ} (h : old ≠ []) {x : σ} (hx : x ∉ old)
    (new xs ys : List σ) :
    replaceAll old new (xs ++ x :: ys) = replaceAll old new xs ++ x :: replaceAll old new ys := by
  induction xs using replaceAll_induction h with
  | nil =>
      have hfront : ¬ old <+: x :: ys := by
        intro hp
        have hempty : old <+: [] := isPrefix_of_isPrefix_append_cons hx hp
        exact h (List.prefix_nil.mp hempty)
      rw [List.nil_append, replaceAll_cons hfront, replaceAll_nil, List.nil_append]
  | occurrence xs ih =>
      rw [List.append_assoc, replaceAll_append h, ih, replaceAll_append h, List.append_assoc]
  | kept y xs hfront ih =>
      have hfront' : ¬ old <+: y :: (xs ++ x :: ys) := by
        intro hp
        have hshort : old <+: y :: xs := isPrefix_of_isPrefix_append_cons hx hp
        exact hfront hshort
      rw [List.cons_append, replaceAll_cons hfront', ih, replaceAll_cons hfront, List.cons_append]

/-- An item that no occurrence has is kept wherever it stands. -/
theorem mem_replaceAll {old : List σ} (h : old ≠ []) {x : σ} (hx : x ∉ old) (new : List σ)
    {xs : List σ} (hmem : x ∈ xs) : x ∈ replaceAll old new xs := by
  obtain ⟨before, after, rfl⟩ := List.append_of_mem hmem
  rw [replaceAll_append_cons h hx]
  exact List.mem_append_right _ List.mem_cons_self

/-! ## Occurrences that are left -/

omit [DecidableEq σ] in
/-- What starts with `x` does not start within items that are not `x`. -/
theorem infix_of_infix_append {x : σ} {more new xs : List σ} (hx : x ∉ new)
    (h : x :: more <:+: new ++ xs) : x :: more <:+: xs := by
  induction new with
  | nil => exact h
  | cons y rest ih =>
      rw [List.cons_append, List.infix_cons_iff] at h
      cases h with
      | inl hfront =>
          have hy : x = y := (List.cons_prefix_cons.mp hfront).1
          exact absurd (hy ▸ List.mem_cons_self) hx
      | inr hrest => exact ih (fun hm => hx (List.mem_cons_of_mem y hm)) hrest

/-- A front that does not have the first item of `new` was there before the replacement. -/
theorem isPrefix_of_isPrefix_replaceAll {old : List σ} (h : old ≠ []) {y : σ} (more : List σ)
    {front xs : List σ} (hy : y ∉ front) (hfront : front <+: replaceAll old (y :: more) xs) :
    front <+: xs := by
  induction xs using replaceAll_induction h generalizing front with
  | nil => rwa [replaceAll_nil] at hfront
  | occurrence xs ih =>
      cases front with
      | nil => exact List.nil_prefix
      | cons z rest =>
          rw [replaceAll_append h, List.cons_append, List.cons_prefix_cons] at hfront
          exact absurd (hfront.1 ▸ List.mem_cons_self) hy
  | kept x xs hkept ih =>
      cases front with
      | nil => exact List.nil_prefix
      | cons z rest =>
          rw [replaceAll_cons hkept, List.cons_prefix_cons] at hfront
          obtain ⟨rfl, hrest⟩ := hfront
          exact List.cons_prefix_cons.mpr
            ⟨rfl, ih (fun hm => hy (List.mem_cons_of_mem z hm)) hrest⟩

/-- **Replacement leaves no occurrence**, provided that one can neither start within what
is put in its place nor reach over the start of it. -/
theorem not_infix_replaceAll {x y : σ} {old new : List σ} (hx : x ∉ y :: new)
    (hy : y ∉ x :: old) (xs : List σ) :
    ¬ x :: old <:+: replaceAll (x :: old) (y :: new) xs := by
  induction xs using replaceAll_induction (List.cons_ne_nil x old) with
  | nil => simp
  | occurrence xs ih =>
      rw [replaceAll_append (List.cons_ne_nil x old)]
      exact fun h => ih (infix_of_infix_append hx h)
  | kept z xs hkept ih =>
      rw [replaceAll_cons hkept, List.infix_cons_iff]
      rintro (hfront | hrest)
      · obtain ⟨rfl, hold⟩ := List.cons_prefix_cons.mp hfront
        have hbefore : old <+: xs := isPrefix_of_isPrefix_replaceAll (List.cons_ne_nil x old) new
          (fun hm => hy (List.mem_cons_of_mem x hm)) hold
        exact hkept (List.cons_prefix_cons.mpr ⟨rfl, hbefore⟩)
      · exact ih hrest

end SchemeCheck.Text

namespace SchemeCheck.Placeholder

/-! ## The fixture root -/

/-- Only one name is known, so substitution is one replacement. -/
theorem substitute_eq (root text : Text) :
    substitute root text = Text.replaceAll (token rootName) root text := by
  simp [substitute, expand, vocabulary]

/-- A text that does not mention the fixture root stays as it is. -/
theorem substitute_of_not_infix {text : Text} (h : ¬ token rootName <:+: text) (root : Text) :
    substitute root text = text := by
  rw [substitute_eq, Text.replaceAll_of_not_infix h]

theorem token_ne_nil (name : Text) : token name ≠ [] := by
  simp [token]

/-- The placeholder itself as the root changes nothing. -/
theorem substitute_token (text : Text) : substitute (token rootName) text = text := by
  rw [substitute_eq, Text.replaceAll_self (token_ne_nil rootName)]

/-- A text that does not mention the fixture root. -/
def Absent (text : Text) : Prop :=
  ¬ token rootName <:+: text

/-- An absolute root without an opening brace leaves no placeholder, however the braces
around it stand: none can start in the root, and none has the slash in front of it. -/
theorem absent_substitute {root : Text} (habsolute : root.head? = some '/')
    (hbrace : '\x7b' ∉ root) (text : Text) : Absent (substitute root text) := by
  obtain ⟨more, rfl⟩ := List.head?_eq_some_iff.mp habsolute
  rw [Absent, substitute_eq]
  exact Text.not_infix_replaceAll hbrace (by decide) text

/-- No placeholder reaches over a line feed: what ends in one is substituted by itself. -/
theorem substitute_append (root : Text) {first : Text} (h : first.getLast? = some '\n')
    (second : Text) :
    substitute root (first ++ second) = substitute root first ++ substitute root second := by
  have hfeed : '\n' ∉ token rootName := by decide
  obtain ⟨body, rfl⟩ := List.getLast?_eq_some_iff.mp h
  have hcut := Text.replaceAll_append_cons (token_ne_nil rootName) hfeed root body
  rw [substitute_eq, substitute_eq, substitute_eq, List.append_assoc, List.singleton_append,
    hcut, hcut, Text.replaceAll_nil, List.append_assoc, List.singleton_append]

/-- Closed lines are substituted one by one. -/
theorem substitute_flatten (root : Text) {lines : List Text}
    (h : ∀ line ∈ lines, line.getLast? = some '\n') :
    substitute root lines.flatten = lines.flatMap (substitute root) := by
  induction lines with
  | nil => exact (substitute_eq root []).trans (Text.replaceAll_nil _ _)
  | cons line rest ih =>
      rw [List.flatten_cons, List.flatMap_cons, substitute_append root (h line List.mem_cons_self),
        ih fun other hm => h other (List.mem_cons_of_mem line hm)]

/-- A closed line stays closed. -/
theorem getLast?_substitute (root : Text) {line : Text} (h : line.getLast? = some '\n') :
    (substitute root line).getLast? = some '\n' := by
  have hfeed : '\n' ∉ token rootName := by decide
  obtain ⟨body, rfl⟩ := List.getLast?_eq_some_iff.mp h
  rw [substitute_eq, Text.replaceAll_append_cons (token_ne_nil rootName) hfeed,
    Text.replaceAll_nil, List.getLast?_concat]

end SchemeCheck.Placeholder
