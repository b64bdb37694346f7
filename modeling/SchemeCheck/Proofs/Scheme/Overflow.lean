import SchemeCheck.Proofs.Scheme.Grammar

/-!
# SchemeCheck.Proofs.Scheme.Overflow

Return codes with more digits than a number may have.  Such a value spells an
integer, so the grammar has no objection to it, and the conversion that follows
fails with an error that is no fault of the scheme.  A scheme overflows
(`Overflows`) if a line of this kind is reached, that is, if nothing before it is
at fault.  The main statement is `reported_iff_not_overflows`: interpretation
comes to a plan or to a fault of the scheme exactly if the scheme does not
overflow.
-/

namespace SchemeCheck.Scheme

/-! ## Lines -/

/-- A line is oversized if it is a return code that spells an integer with more
digits than a number may have. -/
def Oversized (line : Text) : Prop :=
  ∃ value ∈ Reading.value? .returnCode line,
    SpellsInteger value ∧ maxDigits < value.countP Text.isDigit

/-- An oversized line is refused, but it is not what is blamed. -/
theorem refusal?_of_oversized {line : Text} (h : Oversized line) (rules : Rules) (block : Block)
    (lineNum : Int) :
    ∃ count, maxDigits < count ∧
      refusal? rules block line lineNum = some (.tooManyDigits count) := by
  obtain ⟨value, hvalue, hspells, hmany⟩ := h
  obtain ⟨behind, hline, rfl⟩ := Reading.value?_eq_some.mp hvalue
  obtain ⟨⟨negative, digits⟩, hread⟩ := Option.isSome_iff_exists.mp (spellsInteger_iff.mp hspells)
  rw [countP_of_readInteger? hread] at hmany
  refine ⟨digits.length, hmany, ?_⟩
  unfold refusal?
  simp only [hline, hread, if_pos hmany]

/-- A line that neither offends nor is oversized has few enough digits. -/
theorem countP_le_of_not_oversized {root line : Text} (hoffends : ¬ Offends root line)
    (hsize : ¬ Oversized line) :
    ∀ value ∈ Reading.value? .returnCode line, value.countP Text.isDigit ≤ maxDigits := by
  intro value hvalue
  have hspells : SpellsInteger value := by
    by_contra hbad
    exact hoffends (.inl ⟨value, hvalue, hbad⟩)
  exact Nat.not_lt.mp fun hmany => hsize ⟨value, hvalue, hspells, hmany⟩

/-! ## Whole schemes -/

/-- A line stops interpretation if it offends or is oversized. -/
def Stops (root line : Text) : Prop :=
  Offends root line ∨ Oversized line

/-- A line that does not stop interpretation is accepted. -/
theorem refusal?_of_not_stops {rules : Rules} {line : Text} (h : ¬ Stops rules.root line)
    (block : Block) (lineNum : Int) : refusal? rules block line lineNum = none := by
  rw [Stops, not_or] at h
  exact refusal?_of_not_offends h.1 (countP_le_of_not_oversized h.1 h.2) block lineNum

/-- A scheme overflows if no line is too long, and the first line that stops
interpretation is oversized. -/
def Overflows (rules : Rules) (scheme : Text) : Prop :=
  (∀ limit ∈ rules.maxLineSize, ∀ body ∈ Text.lineBodies scheme, body.length ≤ limit) ∧
    ∃ before line, FirstWhere (Stops rules.root) (Text.lines scheme) before line ∧
      Oversized line

/-- What interpretation is to come to: a plan, which records accept, or a fault of
the scheme. -/
def Reported (rules : Rules) (scheme : Text) : Prop :=
  (∃ plan, (interpret rules scheme).outcome = .ok plan ∧
    Plan.ofFields (plan.fields rules.root) = .valid plan) ∨
  ∃ fault, (interpret rules scheme).outcome = .error (.fault fault)

section Recorded

variable {rules : Rules} (hrecorded : rules.escalate = false) {scheme : Text}
include hrecorded

/-- The failure of a scheme that overflows is about its digits. -/
theorem outcome_of_overflows (h : Overflows rules scheme) :
    ∃ count, maxDigits < count ∧
      (interpret rules scheme).outcome = .error (.tooManyDigits count) := by
  obtain ⟨hwithin, before, line, hfirst, hsize⟩ := h
  obtain ⟨count, hmany, hrefusal⟩ :=
    refusal?_of_oversized hsize rules (openAfter before .none) before.length
  have hbefore : ∀ other ∈ before, refusal? rules .none other 0 = none := fun other hother =>
    refusal?_of_not_stops (hfirst.earlier other hother) .none 0
  exact ⟨count, hmany, outcome_of_refused hrecorded hwithin hfirst.stands hbefore hrefusal⟩

/-- A line that is too long is reported before anything else. -/
theorem reported_of_overlong {limit : Int} (hlimit : limit ∈ rules.maxLineSize)
    (h : ∃ body ∈ Text.lineBodies scheme, limit < body.length) : Reported rules scheme := by
  obtain ⟨before, body, hfirst⟩ := exists_firstWhere h
  have hlines := linesWithin_of_firstWhere hfirst rules.filename
  rw [← Option.mem_def.mp hlimit] at hlines
  rw [Reported, outcome_interpret hrecorded, hlines]
  exact .inr ⟨_, rfl⟩

/-- A line that offends is reported if nothing before it stops interpretation. -/
theorem reported_of_offends
    (hwithin : ∀ limit ∈ rules.maxLineSize, ∀ body ∈ Text.lineBodies scheme, body.length ≤ limit)
    {before : List Text} {line : Text}
    (hfirst : FirstWhere (Stops rules.root) (Text.lines scheme) before line)
    (h : Offends rules.root line) : Reported rules scheme := by
  obtain ⟨fault, hrefusal, -⟩ :=
    exists_refusal?_of_offends h (openAfter before .none) before.length
  have hbefore : ∀ other ∈ before, refusal? rules .none other 0 = none := fun other hother =>
    refusal?_of_not_stops (hfirst.earlier other hother) .none 0
  exact .inr ⟨fault, outcome_of_refused hrecorded hwithin hfirst.stands hbefore hrefusal⟩

/-- If nothing stops interpretation, there is a plan. -/
theorem reported_of_none_stops
    (hwithin : ∀ limit ∈ rules.maxLineSize, ∀ body ∈ Text.lineBodies scheme, body.length ≤ limit)
    (h : ∀ line ∈ Text.lines scheme, ¬ Stops rules.root line) : Reported rules scheme := by
  have hoffends : ∀ line ∈ Text.lines scheme, ¬ Offends rules.root line := fun line hline hbad =>
    h line hline (.inl hbad)
  have hdigits : ∀ line ∈ Text.lines scheme, ∀ value ∈ Reading.value? .returnCode line,
      value.countP Text.isDigit ≤ maxDigits := fun line hline =>
    countP_le_of_not_oversized (hoffends line hline) fun hsize => h line hline (.inr hsize)
  exact .inl ⟨_, outcome_of_none_offends hrecorded hwithin hdigits hoffends,
    ofFields_reading hoffends⟩

/-- Whatever stops interpretation first, it is reported unless it is oversized. -/
theorem reported_of_not_overflows (h : ¬ Overflows rules scheme) : Reported rules scheme := by
  by_cases hlong : ∃ limit ∈ rules.maxLineSize, ∃ body ∈ Text.lineBodies scheme,
      limit < body.length
  · obtain ⟨limit, hlimit, hlong⟩ := hlong
    exact reported_of_overlong hrecorded hlimit hlong
  · have hwithin : ∀ limit ∈ rules.maxLineSize, ∀ body ∈ Text.lineBodies scheme,
        (body.length : Int) ≤ limit := fun limit hlimit body hbody =>
      Int.not_lt.mp fun hlt => hlong ⟨limit, hlimit, body, hbody, hlt⟩
    by_cases hstops : ∃ line ∈ Text.lines scheme, Stops rules.root line
    · obtain ⟨before, line, hfirst⟩ := exists_firstWhere hstops
      obtain hoffends | hsize := hfirst.holds
      · exact reported_of_offends hrecorded hwithin hfirst hoffends
      · exact absurd ⟨hwithin, before, line, hfirst, hsize⟩ h
    · exact reported_of_none_stops hrecorded hwithin fun line hline hstop =>
        hstops ⟨line, hline, hstop⟩

/-- What is reported is no overflow. -/
theorem not_overflows_of_reported (h : Reported rules scheme) : ¬ Overflows rules scheme := by
  intro hover
  obtain ⟨count, -, houtcome⟩ := outcome_of_overflows hrecorded hover
  obtain ⟨plan, hplan, -⟩ | ⟨fault, hfault⟩ := h
  · cases houtcome.symm.trans hplan
  · cases houtcome.symm.trans hfault

end Recorded

/-! ## A return code by itself -/

theorem not_isBlank_of_isDigit {c : Char} (h : Text.isDigit c = true) : Text.isBlank c = false := by
  simp only [Text.isDigit, Bool.and_eq_true, decide_eq_true_eq, Char.le_def] at h
  have low : 0x30 ≤ c.toNat := h.1
  have high : c.toNat ≤ 0x39 := h.2
  simp only [Text.isBlank, Bool.or_eq_false_iff, Bool.and_eq_false_iff, decide_eq_false_iff_not]
  omega

/-- An integer has no blanks. -/
theorem not_isBlank_of_spellsInteger {text : Text} (h : SpellsInteger text) :
    ∀ c ∈ text, Text.isBlank c = false := by
  obtain ⟨sign, digits, rfl, hsign, -, hdigits⟩ := h
  intro c hc
  obtain hc | hc := List.mem_append.mp hc
  · simp only [List.mem_cons, List.not_mem_nil, or_false] at hsign
    obtain rfl | rfl | rfl := hsign
    · cases hc
    · rw [List.mem_singleton.mp hc]
      rfl
    · rw [List.mem_singleton.mp hc]
      rfl
  · exact not_isBlank_of_isDigit (hdigits c hc)

/-- What has no blanks loses none when it is trimmed. -/
theorem dropWhile_isBlank {text : Text} (h : ∀ c ∈ text, Text.isBlank c = false) :
    text.dropWhile Text.isBlank = text := by
  cases text with
  | nil => rfl
  | cons c rest => rw [List.dropWhile_cons_of_neg (by simp [h c List.mem_cons_self])]

/-- The line feed of a line is trimmed off its value. -/
theorem trim_closed {text : Text} (h : ∀ c ∈ text, Text.isBlank c = false) :
    Text.trim (text ++ ['\n']) = text := by
  cases text with
  | nil => rfl
  | cons c rest =>
      have hfront : ((c :: rest) ++ ['\n']).dropWhile Text.isBlank = (c :: rest) ++ ['\n'] :=
        List.dropWhile_cons_of_neg (by simp [h c List.mem_cons_self])
      have hback : ((c :: rest) ++ ['\n']).reverse.dropWhile Text.isBlank = (c :: rest).reverse := by
        rw [List.reverse_append, List.reverse_singleton, List.singleton_append,
          List.dropWhile_cons_of_pos rfl]
        exact dropWhile_isBlank fun x hx => h x (List.mem_reverse.mp hx)
      rw [Text.trim, Text.trimOf, hfront, hback, List.reverse_reverse]

/-- A scheme of one return code has this one line. -/
theorem lineBodies_returnCode {text : Text} (h : ∀ c ∈ text, Text.isBlank c = false) :
    Text.lineBodies (Directive.returnCode.mark ++ text) = [Directive.returnCode.mark ++ text] := by
  have hkeep : ∀ c, Text.isBlank c = true → c ∉ Directive.returnCode.mark →
      c ∉ Directive.returnCode.mark ++ text := by
    intro c hc hmark hmem
    obtain hmem | hmem := List.mem_append.mp hmem
    · exact hmark hmem
    · exact absurd (h c hmem) (by simp [hc])
  have hfeed : '\n' ∉ Directive.returnCode.mark ++ text := hkeep '\n' rfl (by decide)
  have hreturn : '\r' ∉ Directive.returnCode.mark ++ text := hkeep '\r' rfl (by decide)
  have hne : Directive.returnCode.mark ++ text ≠ [] := List.cons_ne_nil _ _
  have hchomp : Text.chomp '\r' (Directive.returnCode.mark ++ text) =
      Directive.returnCode.mark ++ text :=
    Text.chomp_eq_self_iff.mpr fun hlast => hreturn (List.mem_of_getLast? hlast)
  rw [Text.lineBodies, Text.cutLines_of_not_mem hfeed, if_neg hne, hchomp]

/-- **Too many digits**, with a sign or without, overflow if they are the return code of
a scheme of one line that is not too long. -/
theorem overflows_of_digits {rules : Rules} {sign digits : Text}
    (hsign : sign ∈ [[], ['+'], ['-']]) (hdigits : ∀ c ∈ digits, Text.isDigit c = true)
    (hmany : maxDigits < digits.length)
    (hlimit : ∀ limit ∈ rules.maxLineSize,
      ((Directive.returnCode.mark.length + (sign.length + digits.length) : Nat) : Int) ≤ limit) :
    Overflows rules (Directive.returnCode.mark ++ (sign ++ digits)) := by
  have hspells : SpellsInteger (sign ++ digits) :=
    ⟨sign, digits, rfl, hsign, List.ne_nil_of_length_pos (by omega), hdigits⟩
  have hcount : maxDigits < (sign ++ digits).countP Text.isDigit := by
    rw [List.countP_append, List.countP_eq_length.mpr hdigits]
    omega
  have hblank := not_isBlank_of_spellsInteger hspells
  have hbodies := lineBodies_returnCode hblank
  have hvalue : Reading.value? .returnCode
      (Directive.returnCode.mark ++ (sign ++ digits) ++ ['\n']) = some (sign ++ digits) := by
    rw [Reading.value?_eq_some, List.append_assoc]
    exact ⟨sign ++ digits ++ ['\n'], rfl, trim_closed hblank⟩
  have hsize : Oversized (Directive.returnCode.mark ++ (sign ++ digits) ++ ['\n']) :=
    ⟨_, hvalue, hspells, hcount⟩
  refine ⟨?_, [], _, ⟨?_, .inr hsize, by simp⟩, hsize⟩
  · intro limit hmem body hbody
    rw [hbodies, List.mem_singleton] at hbody
    rw [hbody, List.length_append, List.length_append]
    exact hlimit limit hmem
  · rw [Text.lines, hbodies]
    exact List.prefix_rfl

/-- A digit that is repeated too often. -/
theorem overflows_replicate {rules : Rules} {sign : Text} (hsign : sign ∈ [[], ['+'], ['-']])
    {c : Char} (hc : Text.isDigit c = true) {n : Nat} (hmany : maxDigits < n)
    (hlimit : ∀ limit ∈ rules.maxLineSize,
      ((Directive.returnCode.mark.length + (sign.length + n) : Nat) : Int) ≤ limit) :
    Overflows rules (Directive.returnCode.mark ++ (sign ++ List.replicate n c)) := by
  have hlength : (List.replicate n c).length = n := List.length_replicate
  refine overflows_of_digits hsign (fun x hx => ?_) (by rw [hlength]; exact hmany)
    (by rw [hlength]; exact hlimit)
  rw [List.eq_of_mem_replicate hx]
  exact hc

/-! ## Overflow -/

/-- **Overflow**: where remarks are recorded, interpretation comes to a plan or to a
fault of the scheme exactly if the scheme does not overflow; if it does, the failure
is the number of digits. -/
theorem reported_iff_not_overflows {rules : Rules} (hrecorded : rules.escalate = false)
    (scheme : Text) :
    (Reported rules scheme ↔ ¬ Overflows rules scheme) ∧
      (Overflows rules scheme → ∃ count, maxDigits < count ∧
        (interpret rules scheme).outcome = .error (.tooManyDigits count)) :=
  ⟨⟨not_overflows_of_reported hrecorded, reported_of_not_overflows hrecorded⟩,
    outcome_of_overflows hrecorded⟩

/-- Leading zeros count as digits, behind a sign and in a line that is just within the
limit. -/
theorem reported_iff_not_overflows_zeros :
    let rules : Rules := { root := "/r".toList, strict := true, maxLineSize := some 4316 }
    let scheme := Directive.returnCode.mark ++ (['-'] ++ List.replicate 4301 '0')
    Overflows rules scheme ∧ ¬ Reported rules scheme ∧
      ∃ count, maxDigits < count ∧
        (interpret rules scheme).outcome = .error (.tooManyDigits count) := by
  intro rules scheme
  have hlimit : ∀ limit ∈ rules.maxLineSize,
      ((Directive.returnCode.mark.length + (['-'].length + 4301) : Nat) : Int) ≤ limit := by
    decide
  have hover : Overflows rules scheme :=
    overflows_replicate (by decide) (by decide) (by decide) hlimit
  obtain ⟨hreported, hcount⟩ := @reported_iff_not_overflows rules rfl scheme
  exact ⟨hover, fun h => hreported.mp h hover, hcount hover⟩

/-- A return code with one digit too many is not reported as a fault of the scheme. -/
theorem not_reported :
    ¬ ∀ (rules : Rules) (scheme : Text), rules.escalate = false → Reported rules scheme := by
  intro h
  let rules : Rules := { root := "/r".toList }
  have hlimit : ∀ limit ∈ rules.maxLineSize,
      ((Directive.returnCode.mark.length + (([] : Text).length + 4301) : Nat) : Int) ≤ limit := by
    decide
  have hover : Overflows rules (Directive.returnCode.mark ++ ([] ++ List.replicate 4301 '9')) :=
    overflows_replicate (by decide) (by decide) (by decide) hlimit
  exact not_overflows_of_reported rfl (h rules _ rfl) hover

end SchemeCheck.Scheme
