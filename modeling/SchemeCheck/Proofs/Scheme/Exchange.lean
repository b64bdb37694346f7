import SchemeCheck.Proofs.Scheme.Acceptance

/-!
# SchemeCheck.Proofs.Scheme.Exchange

Blocks in another order.  Lines that start with an opener are read by
themselves, whatever stands before them: their payload is theirs
(`streamOf_append`, `contentOf_append`), and so is what is wrong with them
(`firstRefusal?_of_opening`).  A complete block is refused nowhere and gives
payload to its own destination only, so two blocks with different destinations
can be exchanged: `interpret_exchange`.
-/

namespace SchemeCheck.Scheme

/-- No lines, or lines of which the first opens a block. -/
def Opening (lines : List Text) : Prop :=
  ∀ line ∈ lines.head?, opener? line ≠ none

/-- An opener with payload and unknown directives below it. -/
inductive IsBlock (opener : Opener) : List Text → Prop
  | mk {line : Text} {body : List Text} (h : opener? line = some opener)
      (hbody : ∀ other ∈ body, classify other = .payload ∨ classify other = .unknown) :
      IsBlock opener (line :: body)

theorem Opening.of_concat {lines : List Text} {line : Text} (h : Opening (lines ++ [line])) :
    Opening lines := by
  cases lines with
  | nil => exact nofun
  | cons first rest => exact h

theorem IsBlock.opening {opener : Opener} {lines : List Text} (h : IsBlock opener lines) :
    Opening lines := by
  cases h with
  | mk hopen =>
      intro line hline
      obtain rfl := Option.some.inj hline
      simp [hopen]

/-! ## Payload -/

namespace Reading

theorem nearest?_append (xs ys : List Text) :
    nearest? (xs ++ ys) = (nearest? ys).or (nearest? xs) := by
  unfold nearest?
  rw [List.filterMap_append, List.getLast?_append]

/-- The payload of lines that start with an opener belongs to them alone. -/
theorem payload_nearest?_append {ys : List Text} {line : Text} (h : Opening (ys ++ [line]))
    (opener : Opener) (xs : List Text) :
    (isPayload line && decide (nearest? (xs ++ ys) = some opener)) =
      (isPayload line && decide (nearest? ys = some opener)) := by
  cases ys with
  | nil =>
      obtain ⟨found, hfound⟩ := Option.ne_none_iff_exists'.mp (h line rfl)
      simp [isPayload_of_opener? hfound]
  | cons first rest =>
      obtain ⟨found, hfound⟩ := Option.ne_none_iff_exists'.mp (h first rfl)
      obtain ⟨near, hnear⟩ : ∃ near, nearest? (first :: rest) = some near := by
        simp [nearest?, List.filterMap_cons_some hfound, List.getLast?_cons]
      rw [nearest?_append, hnear, Option.some_or]

theorem streamOf_append {ys : List Text} (h : Opening ys) (opener : Opener) (xs : List Text) :
    streamOf opener (xs ++ ys) = streamOf opener xs ++ streamOf opener ys := by
  induction ys using List.reverseRecOn with
  | nil => simp [streamOf, payloadWhere]
  | append_singleton ys line ih =>
      rw [← List.append_assoc, streamOf_concat, payload_nearest?_append h, ih h.of_concat,
        streamOf_concat, List.append_assoc]

/-- A file holds what its last opener got: that of the later lines, if they open
it. -/
theorem contentOf_append {ys : List Text} (h : Opening ys) (name : Text) (xs : List Text) :
    contentOf name (xs ++ ys) =
      if .file name ∈ ys.filterMap opener? then contentOf name ys else contentOf name xs := by
  induction ys using List.reverseRecOn with
  | nil => simp
  | append_singleton ys line ih =>
      rw [← List.append_assoc, contentOf_concat, payload_nearest?_append h, ih h.of_concat,
        contentOf_concat]
      simp only [List.filterMap_append, List.mem_append]
      by_cases hopen : opener? line = some (.file name)
      · simp [hopen]
      · have hline : Opener.file name ∉ [line].filterMap opener? := by
          simpa using hopen
        by_cases hmem : Opener.file name ∈ ys.filterMap opener?
        · simp [hopen, hmem]
        · have hnear : nearest? ys ≠ some (.file name) := fun hn => hmem (List.mem_of_getLast? hn)
          simp only [hopen, hmem, hnear, hline, if_false, or_self, decide_false, Bool.and_false,
            Bool.false_eq_true, List.append_nil]

/-- An opener without lines gets nothing. -/
theorem streamOf_of_not_mem {opener : Opener} {lines : List Text}
    (h : opener ∉ lines.filterMap opener?) : streamOf opener lines = [] := by
  induction lines using List.reverseRecOn with
  | nil => rfl
  | append_singleton lines line ih =>
      rw [List.filterMap_append, List.mem_append, not_or] at h
      have hnear : nearest? lines ≠ some opener := fun hn => h.1 (List.mem_of_getLast? hn)
      rw [streamOf_concat, ih h.1]
      simp [hnear]

theorem mem_fileNames_iff {name : Text} {lines : List Text} :
    name ∈ fileNames lines ↔ .file name ∈ lines.filterMap opener? := by
  rw [fileNames, List.mem_eraseDups, List.mem_filterMap, List.mem_filterMap]
  refine exists_congr fun line => and_congr_right fun _ => ?_
  unfold fileName?
  cases opener? line with
  | none => simp
  | some opener => cases opener <;> simp

/-- The files, looked up by name. -/
theorem get?_filesOf (root name : Text) (lines : List Text) :
    Table.get? name (filesOf root lines) =
      if .file name ∈ lines.filterMap opener? then
        some ((contentOf name lines).flatMap (Placeholder.substitute root))
      else none := by
  rw [filesOf, Table.get?_map]
  simp only [mem_fileNames_iff]

end Reading

/-! ## Refusals -/

/-- The block that is open after some lines. -/
def openAfter (lines : List Text) (block : Block) : Block :=
  lines.foldl (fun block line => blockAfter line block) block

/-- The block that is open after some lines is that of the last opener among them. -/
theorem openAfter_eq (lines : List Text) (block : Block) :
    openAfter lines block = ((Reading.nearest? lines).map Opener.block).getD block := by
  induction lines using List.reverseRecOn with
  | nil => rfl
  | append_singleton rest line ih =>
      have hconcat : openAfter (rest ++ [line]) block = blockAfter line (openAfter rest block) := by
        simp [openAfter]
      rw [hconcat, ih, blockAfter, Reading.nearest?_concat]
      cases opener? line <;> rfl

theorem firstRefusal?_append (rules : Rules) (block : Block) (lineNum : Int) (xs ys : List Text) :
    firstRefusal? rules block lineNum (xs ++ ys) =
      (firstRefusal? rules block lineNum xs).or
        (firstRefusal? rules (openAfter xs block) (lineNum + xs.length) ys) := by
  induction xs generalizing block lineNum with
  | nil => simp [firstRefusal?, openAfter]
  | cons line rest ih =>
      have hnum : lineNum + 1 + (rest.length : Int) = lineNum + ((line :: rest).length : Nat) := by
        rw [List.length_cons]
        omega
      rw [List.cons_append, firstRefusal?, firstRefusal?, ih, hnum, Option.or_assoc]
      rfl

theorem refusal?_of_opener? {line : Text} {opener : Opener} (h : opener? line = some opener)
    (rules : Rules) (block : Block) (lineNum : Int) : refusal? rules block line lineNum = none := by
  obtain ⟨directive, value, hline, harg, henv, hcode⟩ := Reading.exists_of_opener? h
  unfold refusal?
  rw [hline]
  cases directive with
  | stderr | stdout | stdin | file => rfl
  | arg => exact absurd rfl harg
  | env => exact absurd rfl henv
  | returnCode => exact absurd rfl hcode

/-- Lines that start with an opener are refused in the same way whatever block
is open before them. -/
theorem firstRefusal?_of_opening {lines : List Text} (h : Opening lines) (rules : Rules)
    (block other : Block) (lineNum : Int) :
    firstRefusal? rules block lineNum lines = firstRefusal? rules other lineNum lines := by
  cases lines with
  | nil => rfl
  | cons line rest =>
      obtain ⟨opener, hopen⟩ := Option.ne_none_iff_exists'.mp (h line rfl)
      rw [firstRefusal?, firstRefusal?, refusal?_of_opener? hopen, refusal?_of_opener? hopen,
        blockAfter, blockAfter, hopen]
      rfl

/-- Nothing is refused among payload and unknown directives. -/
theorem firstRefusal?_of_quiet {lines : List Text}
    (h : ∀ line ∈ lines, classify line = .payload ∨ classify line = .unknown) (rules : Rules)
    (block : Block) (lineNum : Int) : firstRefusal? rules block lineNum lines = none := by
  induction lines generalizing block lineNum with
  | nil => rfl
  | cons line rest ih =>
      have hline : refusal? rules block line lineNum = none := by
        unfold refusal?
        obtain hpayload | hunknown := h line List.mem_cons_self
        · rw [hpayload]
        · rw [hunknown]
      rw [firstRefusal?, hline, Option.none_or]
      exact ih (fun other hm => h other (List.mem_cons_of_mem line hm)) _ _

/-! ## Complete blocks -/

namespace IsBlock

variable {opener : Opener} {lines : List Text}

theorem firstRefusal? (h : IsBlock opener lines) (rules : Rules) (block : Block) (lineNum : Int) :
    firstRefusal? rules block lineNum lines = none := by
  cases h with
  | mk hopen hbody =>
      rw [Scheme.firstRefusal?, refusal?_of_opener? hopen, Option.none_or]
      exact firstRefusal?_of_quiet hbody rules _ _

theorem filterMap_opener? (h : IsBlock opener lines) : lines.filterMap opener? = [opener] := by
  cases h with
  | mk hopen hbody =>
      rw [List.filterMap_cons_some hopen, List.filterMap_eq_nil_iff.mpr]
      intro other hother
      unfold opener?
      obtain hpayload | hunknown := hbody other hother
      · rw [hpayload]
      · rw [hunknown]

/-- A block holds no arguments, environment entries or return codes. -/
theorem filterMap_value? (h : IsBlock opener lines) {directive : Directive}
    (hscalar : directive = .arg ∨ directive = .env ∨ directive = .returnCode) :
    lines.filterMap (Reading.value? directive) = [] := by
  cases h with
  | @mk line body hopen hbody =>
      rw [List.filterMap_eq_nil_iff, List.forall_mem_cons]
      constructor
      · obtain ⟨found, value, hline, harg, henv, hcode⟩ := Reading.exists_of_opener? hopen
        have hne : found ≠ directive := by
          obtain rfl | rfl | rfl := hscalar <;> assumption
        simp [Reading.value?, hline, hne]
      · intro other hother
        unfold Reading.value?
        obtain hpayload | hunknown := hbody other hother
        · rw [hpayload]
        · rw [hunknown]

end IsBlock

/-! ## Exchange -/

section Exchange

variable {before one two after : List Text} {left right : Opener}

theorem filterMap_value?_exchange (hone : IsBlock left one) (htwo : IsBlock right two)
    {directive : Directive}
    (hscalar : directive = .arg ∨ directive = .env ∨ directive = .returnCode) :
    (before ++ two ++ one ++ after).filterMap (Reading.value? directive) =
      (before ++ one ++ two ++ after).filterMap (Reading.value? directive) := by
  simp only [List.filterMap_append, hone.filterMap_value? hscalar, htwo.filterMap_value? hscalar,
    List.append_nil]

theorem streamOf_exchange (hone : IsBlock left one) (htwo : IsBlock right two)
    (hne : left ≠ right) (hafter : Opening after) (opener : Opener) :
    Reading.streamOf opener (before ++ two ++ one ++ after) =
      Reading.streamOf opener (before ++ one ++ two ++ after) := by
  simp only [Reading.streamOf_append hafter, Reading.streamOf_append hone.opening,
    Reading.streamOf_append htwo.opening]
  -- One of the two blocks has nothing for the stream.
  by_cases hleft : opener = left
  · have hnone : Reading.streamOf opener two = [] :=
      Reading.streamOf_of_not_mem (by simpa [htwo.filterMap_opener?, hleft] using hne)
    simp only [hnone, List.append_nil]
  · have hnone : Reading.streamOf opener one = [] :=
      Reading.streamOf_of_not_mem (by simpa [hone.filterMap_opener?] using hleft)
    simp only [hnone, List.append_nil]

theorem contentOf_exchange (hone : IsBlock left one) (htwo : IsBlock right two)
    (hne : left ≠ right) (hafter : Opening after) (name : Text) :
    Reading.contentOf name (before ++ two ++ one ++ after) =
      Reading.contentOf name (before ++ one ++ two ++ after) := by
  simp only [Reading.contentOf_append hafter, Reading.contentOf_append hone.opening,
    Reading.contentOf_append htwo.opening, hone.filterMap_opener?, htwo.filterMap_opener?,
    List.mem_singleton]
  by_cases hleft : .file name = left
  · rw [if_pos hleft, if_neg (fun hright => hne (hleft.symm.trans hright)), if_pos hleft]
  · rw [if_neg hleft, if_neg hleft]

theorem mem_exchange {α : Type} {xs us : List α} (ys zs : List α) {x : α} :
    x ∈ xs ++ zs ++ ys ++ us ↔ x ∈ xs ++ ys ++ zs ++ us := by
  simp only [List.mem_append]
  tauto

/-- A text whose lines are lines of another one has its bodies from there. -/
theorem mem_lineBodies_of_lines {first second body : Text}
    (h : ∀ line ∈ Text.lines second, line ∈ Text.lines first)
    (hbody : body ∈ Text.lineBodies second) : body ∈ Text.lineBodies first := by
  obtain ⟨found, hfound, heq⟩ :=
    List.mem_map.mp (h (body ++ ['\n']) (List.mem_map.mpr ⟨body, hbody, rfl⟩))
  rwa [← List.append_cancel_right heq]

theorem firstRefusal?_exchange (before : List Text) (hone : IsBlock left one)
    (htwo : IsBlock right two) (hafter : Opening after) (rules : Rules) (block : Block)
    (lineNum : Int) :
    firstRefusal? rules block lineNum (before ++ two ++ one ++ after) =
      firstRefusal? rules block lineNum (before ++ one ++ two ++ after) := by
  have hlength : (before ++ two ++ one).length = (before ++ one ++ two).length := by
    simp only [List.length_append]
    omega
  simp only [firstRefusal?_append, hone.firstRefusal?, htwo.firstRefusal?, Option.or_none, hlength]
  rw [firstRefusal?_of_opening hafter]

end Exchange

/-- **Exchange**: two complete blocks with different destinations can change
places in front of the end or of another opener.  The scheme fails as it did,
or its plan stays the same but for the order of the files. -/
theorem interpret_exchange {rules : Rules} (hrecorded : rules.escalate = false)
    {first second : Text} {before one two after : List Text} {left right : Opener}
    (hone : IsBlock left one) (htwo : IsBlock right two) (hne : left ≠ right)
    (hafter : Opening after)
    (hfirst : Text.lines first = before ++ one ++ two ++ after)
    (hsecond : Text.lines second = before ++ two ++ one ++ after)
    (hlimit : ∀ most ∈ rules.maxLineSize, ∀ body ∈ Text.lineBodies first,
      (body.length : Int) ≤ most) :
    (∃ failure, (interpret rules first).outcome = .error failure ∧
      (interpret rules second).outcome = .error failure) ∨
    ∃ plan other, (interpret rules first).outcome = .ok plan ∧
      (interpret rules second).outcome = .ok other ∧
      other = { plan with files := other.files, scheme := second } ∧
      ∀ name, Table.get? name other.files = Table.get? name plan.files := by
  have hlimit' : ∀ most ∈ rules.maxLineSize, ∀ body ∈ Text.lineBodies second,
      (body.length : Int) ≤ most := by
    intro most hmost body hbody
    refine hlimit most hmost body (mem_lineBodies_of_lines (fun line hline => ?_) hbody)
    rw [hfirst]
    exact (mem_exchange one two).mp (hsecond ▸ hline)
  have hrefusal := firstRefusal?_exchange before hone htwo hafter rules .none 0
  simp only [outcome_interpret hrecorded, linesWithin_of_forall_le hlimit,
    linesWithin_of_forall_le hlimit']
  rw [hfirst, hsecond, hrefusal]
  cases firstRefusal? rules .none 0 (before ++ one ++ two ++ after) with
  | some failure => exact .inl ⟨failure, rfl, rfl⟩
  | none =>
      refine .inr ⟨_, _, rfl, rfl, ?_, fun name => ?_⟩
      · have hvalues := fun directive =>
          @filterMap_value?_exchange before one two after left right hone htwo directive
        simp only [Reading.plan, hfirst, hsecond, Reading.returnCodeOf,
          streamOf_exchange hone htwo hne hafter, hvalues .arg (.inl rfl),
          hvalues .env (.inr (.inl rfl)), hvalues .returnCode (.inr (.inr rfl))]
      · simp only [Reading.plan, Reading.get?_filesOf, hfirst, hsecond, List.filterMap_append,
          mem_exchange (one.filterMap opener?), contentOf_exchange hone htwo hne hafter]

/-- Two files, of which the first lines leave one open and the last lines open
the other one again. -/
theorem interpret_exchange_files :
    let rules : Rules := { root := "/r".toList, strict := true }
    let before := ["--file: a\n".toList, "old\n".toList, "--arg: {dir}\n".toList]
    let one := ["--file:b\n".toList, "one\n".toList, "--other\n".toList, "more\n".toList]
    let two := ["--file: a \n".toList, "two {dir}\n".toList]
    let after := ["--stdout\n".toList, "out\n".toList, "--file:b\n".toList, "last\n".toList]
    let first := (before ++ one ++ two ++ after).flatten
    let second := (before ++ two ++ one ++ after).flatten
    IsBlock (.file "b".toList) one ∧ IsBlock (.file "a".toList) two ∧ Opening after ∧
    ∃ plan other, (interpret rules first).outcome = .ok plan ∧
      (interpret rules second).outcome = .ok other ∧
      plan.files = [("a".toList, "two /r\n".toList), ("b".toList, "last\n".toList)] ∧
      plan.stdout = "out\n".toList ∧ plan.args = ["/r".toList] ∧
      other = { plan with files := other.files, scheme := second } ∧
      ∀ name, Table.get? name other.files = Table.get? name plan.files := by
  intro rules before one two after first second
  have hone : IsBlock (.file "b".toList) one := .mk (by decide) (by decide)
  have htwo : IsBlock (.file "a".toList) two := .mk (by decide) (by decide)
  have hafter : Opening after := by
    intro line hline
    obtain rfl := Option.some.inj hline
    decide
  let plan : Plan :=
    { rootDir := Path.ofText "/r".toList
      files := [("a".toList, "two /r\n".toList), ("b".toList, "last\n".toList)]
      args := ["/r".toList], env := [], stdin := []
      stdout := "out\n".toList, stderr := [], returnCode := 0, scheme := first }
  have hplan : (interpret rules first).outcome = .ok plan := by decide +kernel
  obtain ⟨failure, herror, -⟩ | ⟨found, other, hfound, hother, heq, hfiles⟩ :=
    @interpret_exchange rules rfl first second before one two after _ _ hone htwo (by decide) hafter
      (by decide +kernel) (by decide +kernel) (by decide +kernel)
  · rw [hplan] at herror
    cases herror
  · obtain rfl : plan = found := Except.ok.inj (hplan.symm.trans hfound)
    exact ⟨hone, htwo, hafter, plan, other, hfound, hother, rfl, rfl, rfl, heq, hfiles⟩

end SchemeCheck.Scheme
