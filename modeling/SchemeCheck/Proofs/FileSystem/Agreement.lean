import SchemeCheck.Proofs.FileSystem.Frame

/-!
# SchemeCheck.Proofs.FileSystem.Agreement

File systems that an operation cannot tell apart.  `Agree domain fs other` says
that the same links stand in both, and the same entries at the places of the
domain.  An operation on a plain place looks at nothing but the places on the way
to it; so if these are in the domain, it fails in both with the same error or
succeeds in both, and what it leaves agrees again (`agree_makeDirectories`,
`alike_write`).

What is made or written at a place and below it is not seen from the places
outside, provided that the directories above it are there already: `Made.agree`
and `Written.agree`.
-/

namespace SchemeCheck.FileSystem

variable {domain : Place → Prop} {fs other : FileSystem}

/-- The same links stand in both file systems, and the same entries at the places
of the domain. -/
structure Agree (domain : Place → Prop) (fs other : FileSystem) : Prop where
  link? : other.link? = fs.link?
  entry? : ∀ place, domain place → other.entry? place = fs.entry? place

namespace Agree

theorem refl (domain : Place → Prop) (fs : FileSystem) : Agree domain fs fs where
  link? := rfl
  entry? _ _ := rfl

theorem trans {last : FileSystem} (h : Agree domain fs other) (h' : Agree domain other last) :
    Agree domain fs last where
  link? := h'.link?.trans h.link?
  entry? place hplace := (h'.entry? place hplace).trans (h.entry? place hplace)

theorem mono {smaller : Place → Prop} (h : Agree domain fs other)
    (hle : ∀ place, smaller place → domain place) : Agree smaller fs other where
  link? := h.link?
  entry? place hplace := h.entry? place (hle place hplace)

theorem isDirectory_eq (h : Agree domain fs other) {place : Place} (hplace : domain place) :
    other.isDirectory place = fs.isDirectory place := by
  simp only [isDirectory, h.entry? place hplace]

/-- What is put in both file systems leaves them in agreement. -/
theorem put (h : Agree domain fs other) {place : Place} (hroot : place ≠ []) (entry : Entry) :
    Agree domain (fs.put place entry) (other.put place entry) where
  link? := by
    funext above
    have hlink := congrFun h.link? above
    unfold FileSystem.link? at hlink ⊢
    rw [entry?_put hroot, entry?_put hroot]
    by_cases habove : place = above
    · rw [if_pos habove, if_pos habove]
    · rw [if_neg habove, if_neg habove]
      exact hlink
  entry? above habove := by
    rw [entry?_put hroot, entry?_put hroot, h.entry? above habove]

end Agree

/-- A place with no link on the way to it, and directories all the way. -/
structure Site (fs : FileSystem) (place : Place) : Prop where
  plain : fs.Plain place
  above : ∀ above, above <+: place → above ≠ place → fs.isDirectory above = true

/-- There is a site where a directory stands. -/
theorem Valid.site (h : fs.Valid) {place : Place} (hdir : fs.isDirectory place = true) :
    fs.Site place where
  plain := h.plain hdir
  above _ hle _ := h.isDirectory_above hdir hle

/-- There is a site for what is not there yet, in a directory. -/
theorem Valid.site_concat (h : fs.Valid) {place : Place} {name : Text}
    (hdir : fs.isDirectory place = true) (hlink : fs.link? (place ++ [name]) = none)
    (hdot : name ≠ ['.']) (hup : name ≠ ['.', '.']) : fs.Site (place ++ [name]) where
  plain := (h.plain hdir).concat hlink hdot hup
  above _ hle hne := h.isDirectory_above hdir ((List.prefix_concat_iff.mp hle).resolve_left hne)

/-- What agrees on the way to a site has a site there. -/
theorem Site.of_agree {place : Place} (hsite : fs.Site place) (h : Agree domain fs other)
    (hway : ∀ above, above <+: place → above ≠ place → domain above) : other.Site place where
  plain := hsite.plain.of_link?_eq h.link?
  above above hle hne := by rw [h.isDirectory_eq (hway above hle hne), hsite.above above hle hne]

/-- Nothing is missing on the way to a site. -/
theorem Site.stands {place above : Place} (h : fs.Site place) (hle : above <+: place)
    (hne : above ≠ place) : fs.entry? above ≠ none := by
  rw [isDirectory_iff.mp (h.above above hle hne)]
  exact Option.some_ne_none _

/-- The directories that are made for a site are not seen from outside of it. -/
theorem Made.agree {base : Place} (h : Made base fs other) (hsite : fs.Site base) :
    Agree (fun place => ¬ base <+: place) fs other where
  link? := h.link?_eq
  entry? place houtside := by
    obtain heq | ⟨habove, hnone, -⟩ := h place
    · exact heq
    · have hne : place ≠ base := fun e => houtside (e ▸ List.prefix_rfl)
      exact absurd hnone (hsite.stands habove hne)

/-- Nor are the files below it and the directories that are made for them. -/
theorem Written.agree {base : Place} {files : Place → Prop} (h : Written files fs other)
    (hsite : fs.Site base) (hbelow : ∀ file, files file → base <+: file)
    (hlink : ∀ file, files file → fs.link? file = none) :
    Agree (fun place => ¬ base <+: place) fs other where
  link? := h.link?_eq hlink
  entry? place houtside := by
    obtain heq | ⟨hnone, -, file, hfile, hle, -⟩ | ⟨hfile, -⟩ := h place
    · exact heq
    · -- Two places above the file: the one that is not below the site is above it.
      have habove : place <+: base :=
        (List.prefix_or_prefix_of_prefix hle (hbelow file hfile)).resolve_right houtside
      have hne : place ≠ base := fun e => houtside (e ▸ List.prefix_rfl)
      exact absurd hnone (hsite.stands habove hne)
    · exact absurd (hbelow place hfile) houtside

/-- Every place on the way to the given one is in the domain. -/
def Covers (domain : Place → Prop) (place : Place) : Prop :=
  ∀ above, above <+: place → domain above

theorem Covers.above {place above : Place} (h : Covers domain place) (hle : above <+: place) :
    Covers domain above := fun _ hhigher => h _ (hhigher.trans hle)

/-! ## Walking -/

/-- **A walk to a plain place looks at the places on the way.** -/
theorem walk_congr (h : Agree domain fs other) (fresh : Bool) (links : Nat) {here : Place}
    {steps : List Text} (hplain : fs.Plain (here ++ steps)) (hway : Covers domain (here ++ steps)) :
    other.walk fresh links here steps = fs.walk fresh links here steps := by
  induction steps generalizing here with
  | nil => rw [walk_nil, walk_nil]
  | cons name rest ih =>
      have hname := hplain.names name (by simp)
      have hlink := hplain.link? (here ++ [name]) ⟨rest, by simp⟩
      have hhere := h.isDirectory_eq (hway here (List.prefix_append here _))
      have hnext := h.entry? (here ++ [name]) (hway _ ⟨rest, by simp⟩)
      have hother : other.link? (here ++ [name]) = none := by rw [h.link?, hlink]
      rw [List.append_cons] at hplain hway
      rw [walk_cons hname hother, walk_cons hname hlink, hhere, hnext, ih hplain hway]

theorem walk_nil_congr (h : Agree domain fs other) (fresh : Bool) (links : Nat) {place : Place}
    (hplain : fs.Plain place) (hway : Covers domain place) :
    other.walk fresh links [] place = fs.walk fresh links [] place :=
  @walk_congr domain fs other h fresh links [] place hplain hway

theorem vacancy_congr (h : Agree domain fs other) {place : Place} (hplain : fs.Plain place)
    (hway : Covers domain place) : other.vacancy place = fs.vacancy place := by
  have hparent := List.dropLast_prefix place
  have hwalk := walk_nil_congr h false maxLinks hplain.dropLast (hway.above hparent)
  unfold vacancy
  rw [hwalk]
  cases hfound : fs.walk false maxLinks [] place.dropLast with
  | error errno => rfl
  | ok found =>
      obtain rfl : found = place.dropLast := walk_eq hplain.dropLast hfound
      have hdir := h.isDirectory_eq (hway _ hparent)
      simp only [bind, Except.bind, hdir]

theorem leadsToDirectory_congr (h : Agree domain fs other) {place : Place}
    (hplain : fs.Plain place) (hway : Covers domain place) :
    other.leadsToDirectory place = fs.leadsToDirectory place := by
  have hwalk := walk_nil_congr h false maxLinks hplain hway
  unfold leadsToDirectory
  rw [hwalk]
  cases hfound : fs.walk false maxLinks [] place with
  | error errno => rfl
  | ok found =>
      obtain rfl : found = place := walk_eq hplain hfound
      exact h.isDirectory_eq (hway _ List.prefix_rfl)

/-! ## Operations -/

/-- Both operations fail with the same error, or both leave file systems that
agree. -/
inductive Alike (domain : Place → Prop) :
    Except Errno FileSystem → Except Errno FileSystem → Prop
  | error (errno : Errno) : Alike domain (.error errno) (.error errno)
  | ok {made madeOther : FileSystem} (h : Agree domain made madeOther) :
      Alike domain (.ok made) (.ok madeOther)

theorem alike_makeDirectory (h : Agree domain fs other) {place : Place}
    (hplain : fs.Plain place) (hway : Covers domain place) :
    Alike domain (fs.makeDirectory place) (other.makeDirectory place) := by
  unfold makeDirectory
  rw [vacancy_congr h hplain hway]
  cases hvacant : fs.vacancy place with
  | error errno => exact .error errno
  | ok vacant =>
      obtain rfl : vacant = place := vacancy_eq hplain hvacant
      simp only [bind, Except.bind, h.entry? _ (hway _ List.prefix_rfl)]
      cases hentry : fs.entry? vacant with
      | some entry => exact .error .exists
      | none => exact .ok (h.put (ne_nil_of_missing hentry) .directory)

theorem alike_write (h : Agree domain fs other) {place : Place} (hplain : fs.Plain place)
    (hway : Covers domain place) (content : List UInt8) :
    Alike domain (fs.write place content) (other.write place content) := by
  unfold write
  rw [walk_nil_congr h true maxLinks hplain hway]
  split
  · exact .error .nameTooLong
  · cases hfound : fs.walk true maxLinks [] place with
    | error errno => exact .error errno
    | ok found =>
        obtain rfl : found = place := walk_eq hplain hfound
        simp only [bind, Except.bind, h.entry? _ (hway _ List.prefix_rfl)]
        by_cases hdir : fs.entry? found = some .directory
        · simp only [hdir]
          exact .error .isDirectory
        · split
          · exact .error .isDirectory
          · exact .ok (h.put (ne_nil_of_not_directory hdir) (.file content))

/-- However many levels there are to make, the same are made, and it stops at the
same one. -/
theorem agree_makeDirectories_go (depth : Nat) {place : Place} (h : Agree domain fs other)
    (hplain : fs.Plain place) (hway : Covers domain place) :
    (makeDirectories.go depth place other).2 = (makeDirectories.go depth place fs).2 ∧
      Agree domain (makeDirectories.go depth place fs).1
        (makeDirectories.go depth place other).1 := by
  induction depth generalizing place with
  | zero =>
      have hleads := leadsToDirectory_congr h hplain hway
      have hmake := alike_makeDirectory h hplain hway
      unfold makeDirectories.go
      revert hmake
      generalize fs.makeDirectory place = made, other.makeDirectory place = madeOther
      rintro (errno | hmade)
      · cases errno <;> simp only [hleads, h, and_self]
      · exact ⟨rfl, hmade⟩
  | succ depth ih =>
      have hleads := leadsToDirectory_congr h hplain hway
      have hmake := alike_makeDirectory h hplain hway
      obtain ⟨hsame, hagree⟩ := ih hplain.dropLast (hway.above (List.dropLast_prefix place))
      have hmade := made_makeDirectories_go depth hplain.dropLast
      unfold makeDirectories.go
      revert hmake
      generalize fs.makeDirectory place = made, other.makeDirectory place = madeOther
      rintro (errno | hmade)
      · cases errno with
        | noEntry =>
            dsimp only
            revert hsame hagree hmade
            generalize makeDirectories.go depth place.dropLast fs = above
            generalize makeDirectories.go depth place.dropLast other = aboveOther
            obtain ⟨above, failure?⟩ := above
            obtain ⟨aboveOther, failureOther?⟩ := aboveOther
            rintro (rfl : failureOther? = failure?) hagree hmade
            cases failureOther? with
            | some failure => exact ⟨rfl, hagree⟩
            | none =>
                have hplace := hplain.of_link?_eq hmade.link?_eq
                have hleads := leadsToDirectory_congr hagree hplace hway
                have hagain := alike_makeDirectory hagree hplace hway
                dsimp only
                revert hagain
                generalize above.makeDirectory place = made,
                  aboveOther.makeDirectory place = madeOther
                rintro (errno | hmade)
                · exact ⟨by simp only [hleads], hagree⟩
                · exact ⟨rfl, hmade⟩
        | _ => simp only [hleads, h, and_self]
      · exact ⟨rfl, hmade⟩

/-- **Making directories**: the same ones are made in file systems that agree on the
way. -/
theorem agree_makeDirectories {place : Place} (h : Agree domain fs other)
    (hplain : fs.Plain place) (hway : Covers domain place) :
    (other.makeDirectories place).2 = (fs.makeDirectories place).2 ∧
      Agree domain (fs.makeDirectories place).1 (other.makeDirectories place).1 :=
  agree_makeDirectories_go place.length h hplain hway

end SchemeCheck.FileSystem
