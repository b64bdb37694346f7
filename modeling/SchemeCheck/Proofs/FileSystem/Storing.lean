import SchemeCheck.Proofs.FileSystem.Frame

/-!
# SchemeCheck.Proofs.FileSystem.Storing

When a file can be stored at a place: the directories above it made, and the file
written.  That is so if the place is not too long (`Fits`) and nothing is in the
way (`Clear`): above it stand directories, or nothing yet, and at the place
itself no directory (`stores_iff`).  What comes of it is told by the place and
the content alone (`Stored`).

Of two files that are stored one after the other, the second one can be stored
if that was so before the first one and neither place is above the other one
(`Stored.clear_iff`).  Nothing in that depends on which of them is the first.
-/

namespace SchemeCheck.FileSystem

variable {fs : FileSystem}

/-! ## Places that are not too long -/

theorem isPrefix_joinWith {above place : Place} (h : above <+: place) :
    Text.joinWith ['/'] above <+: Text.joinWith ['/'] place := by
  obtain ⟨rest, rfl⟩ := h
  unfold Text.joinWith
  induction above with
  | nil => exact List.nil_prefix
  | cons name more ih =>
      cases more with
      | nil =>
          rw [List.intercalate_singleton, List.singleton_append]
          cases rest with
          | nil => simp [List.intercalate_singleton]
          | cons next rest =>
              rw [List.intercalate_cons_cons, List.append_assoc]
              exact List.prefix_append name _
      | cons next more =>
          rw [List.cons_append, List.cons_append, List.intercalate_cons_cons,
            List.intercalate_cons_cons]
          exact (List.prefix_append_right_inj _).mpr ih

theorem sizeOf_le {front text : Text} (h : front <+: text) : sizeOf front ≤ sizeOf text := by
  obtain ⟨rest, rfl⟩ := h
  simp [sizeOf, Encoding.Utf8.encode]

/-- Neither the place nor a name of it is too long. -/
structure Fits (place : Place) : Prop where
  path : sizeOf (Path.ofNames place).text < maxPathSize
  names : ∀ name ∈ place, sizeOf name ≤ maxNameSize

theorem Fits.above {place above : Place} (h : Fits place) (hle : above <+: place) :
    Fits above where
  path := by
    have hfront : (Path.ofNames above).text <+: (Path.ofNames place).text :=
      (List.prefix_append_right_inj _).mpr (isPrefix_joinWith hle)
    exact Nat.lt_of_le_of_lt (sizeOf_le hfront) h.path
  names name hname := h.names name (hle.mem hname)

/-! ## Ways -/

/-- What is properly above a place that is not the root. -/
theorem prefix_dropLast_iff {place above : Place} (hroot : place ≠ []) :
    above <+: place.dropLast ↔ above <+: place ∧ above ≠ place := by
  cases place using List.reverseRecOn with
  | nil => exact absurd rfl hroot
  | append_singleton front name =>
      rw [List.dropLast_concat, List.prefix_concat_iff]
      constructor
      · intro hle
        refine ⟨.inr hle, ?_⟩
        rintro rfl
        have hlength := hle.length_le
        rw [List.length_append, List.length_singleton] at hlength
        omega
      · rintro ⟨hle, hne⟩
        exact hle.resolve_left hne

/-- Directories stand all the way from a place, up to the last step. -/
def Led (fs : FileSystem) (here : Place) (steps : List Text) : Prop :=
  ∀ above, above <+: steps → above ≠ steps → fs.isDirectory (here ++ above) = true

theorem led_cons {here : Place} {name : Text} {rest : List Text} :
    fs.Led here (name :: rest) ↔ fs.isDirectory here = true ∧ fs.Led (here ++ [name]) rest := by
  unfold Led
  simp only [List.prefix_cons_iff, List.append_assoc, List.singleton_append]
  constructor
  · intro h
    refine ⟨by simpa using h [] (.inl rfl) nofun, fun above hle hne => ?_⟩
    exact h (name :: above) (.inr ⟨above, rfl, hle⟩) fun e => hne (List.cons.inj e).2
  · rintro ⟨hhere, hrest⟩ above (rfl | ⟨more, rfl, hle⟩) hne
    · rwa [List.append_nil]
    · exact hrest more hle fun e => hne (congrArg _ e)

/-- **A walk to a plain place that need not exist** comes to its end where its
names are not too long and it is led by directories. -/
theorem walk_fresh_iff {links : Nat} {here : Place} {steps : List Text}
    (hplain : fs.Plain (here ++ steps)) :
    fs.walk true links here steps = .ok (here ++ steps) ↔
      (∀ name ∈ steps, sizeOf name ≤ maxNameSize) ∧ fs.Led here steps := by
  induction steps generalizing here with
  | nil =>
      rw [walk_nil, List.append_nil]
      exact iff_of_true rfl ⟨fun _ hname => absurd hname List.not_mem_nil,
        fun _ hle hne => absurd (List.prefix_nil.mp hle) hne⟩
  | cons name rest ih =>
      have hname := hplain.names name (by simp)
      have hlink := hplain.link? (here ++ [name]) ⟨rest, by simp⟩
      rw [List.append_cons] at hplain ⊢
      rw [walk_cons hname hlink, List.forall_mem_cons, led_cons]
      by_cases hhere : fs.isDirectory here = true
      · by_cases hsize : maxNameSize < sizeOf name
        · simp [hhere, hsize, Nat.not_le.mpr hsize]
        · by_cases hnone : fs.entry? (here ++ [name]) = none
          · have hmissing : fs.isDirectory (here ++ [name]) = false := by
              simp [isDirectory, hnone]
            cases rest with
            | nil => simp [hhere, hsize, hnone, Nat.not_lt.mp hsize, Led]
            | cons next rest => simp [hhere, hsize, hnone, led_cons, hmissing]
          · simp only [hhere, hsize, hnone, Nat.not_lt.mp hsize, reduceCtorEq, if_false, true_and,
              ih hplain]
      · simp [hhere]

/-! ## Directories that can be made -/

/-- Nothing but directories stands on the way to a place, nor at the place itself. -/
def Open (fs : FileSystem) (place : Place) : Prop :=
  ∀ above, above <+: place → fs.entry? above = none ∨ fs.entry? above = some .directory

/-- Directories stand on the way to a place, and at the place itself. -/
def Paved (fs : FileSystem) (place : Place) : Prop :=
  ∀ above, above <+: place → fs.isDirectory above = true

theorem Open.above {place above : Place} (h : fs.Open place) (hle : above <+: place) :
    fs.Open above := fun _ hhigher => h _ (hhigher.trans hle)

theorem paved_nil (fs : FileSystem) : fs.Paved [] := by
  intro above hle
  rw [List.prefix_nil.mp hle]
  rfl

theorem Paved.concat {place : Place} {name : Text} (h : fs.Paved place)
    (hdir : fs.isDirectory (place ++ [name]) = true) : fs.Paved (place ++ [name]) := by
  intro above hle
  cases List.prefix_concat_iff.mp hle with
  | inl heq => rw [heq, hdir]
  | inr hle => exact h above hle

theorem Paved.of_dropLast {place : Place} (h : fs.Paved place.dropLast)
    (hdir : fs.isDirectory place = true) : fs.Paved place := by
  cases place using List.reverseRecOn with
  | nil => exact paved_nil fs
  | append_singleton front name =>
      rw [List.dropLast_concat] at h
      exact h.concat hdir

theorem Paved.open {place : Place} (h : fs.Paved place) : fs.Open place :=
  fun above hle => .inr (isDirectory_iff.mp (h above hle))

/-- **A walk on an open way** comes to its end, or to a place where nothing stands. -/
theorem walk_of_open {links : Nat} {here : Place} {steps : List Text}
    (hplain : fs.Plain (here ++ steps)) (hnames : ∀ name ∈ steps, sizeOf name ≤ maxNameSize)
    (hopen : fs.Open (here ++ steps)) (hhere : fs.Paved here) :
    (fs.walk false links here steps = .ok (here ++ steps) ∧ fs.Paved (here ++ steps)) ∨
      (fs.walk false links here steps = .error .noEntry ∧ ¬ fs.Paved (here ++ steps)) := by
  induction steps generalizing here with
  | nil =>
      rw [walk_nil, List.append_nil]
      exact .inl ⟨rfl, hhere⟩
  | cons name rest ih =>
      have hname := hplain.names name (by simp)
      have hstep := hopen (here ++ [name]) ⟨rest, by simp⟩
      obtain ⟨hsize, hsizes⟩ := List.forall_mem_cons.mp hnames
      have hdir := hhere here List.prefix_rfl
      rw [List.append_cons] at hplain hopen ⊢
      have hlink := hplain.link? (here ++ [name]) (List.prefix_append _ rest)
      rw [walk_cons hname hlink]
      obtain hnone | hnext := hstep
      · have hgap : ¬ fs.Paved (here ++ [name] ++ rest) := by
          intro hpaved
          have hthere := hpaved (here ++ [name]) (List.prefix_append _ rest)
          rw [isDirectory_iff, hnone] at hthere
          cases hthere
        exact .inr ⟨by simp [hdir, Nat.not_lt.mpr hsize, hnone], hgap⟩
      · have hpaved := hhere.concat (isDirectory_iff.mpr hnext)
        simp only [hdir, Nat.not_lt.mpr hsize, hnext, reduceCtorEq, if_false]
        exact ih hplain hsizes hopen hpaved

theorem leadsToDirectory_of_paved {place : Place} (hplain : fs.Plain place) (hfits : Fits place)
    (hpaved : fs.Paved place) : fs.leadsToDirectory place = true := by
  have hwalk : fs.walk false maxLinks [] place = .ok place := by
    obtain ⟨hwalk, -⟩ | ⟨-, hgap⟩ :=
      @walk_of_open fs maxLinks [] place hplain hfits.names hpaved.open (paved_nil fs)
    · exact hwalk
    · exact absurd hpaved hgap
  simp only [leadsToDirectory, hwalk, hpaved place List.prefix_rfl]

/-- In a directory there is room for what fits. -/
theorem vacancy_of_paved {place : Place} (hfits : Fits place)
    (hwalk : fs.walk false maxLinks [] place.dropLast = .ok place.dropLast)
    (hpaved : fs.Paved place.dropLast) : fs.vacancy place = .ok place := by
  have hdir := hpaved _ List.prefix_rfl
  have hlast : sizeOf (place.getLast?.getD []) ≤ maxNameSize := by
    cases hname : place.getLast? with
    | none => exact Nat.zero_le _
    | some name => exact hfits.names name (List.mem_of_getLast? hname)
  have hplace : place.dropLast ++ place.getLast?.toList = place := by
    cases place using List.reverseRecOn with
    | nil => rfl
    | append_singleton front name => simp
  simp [vacancy, Nat.not_le.mpr hfits.path, hwalk, bind, Except.bind, hdir,
    Nat.not_lt.mpr hlast, hplace]

/-- Where the way is open, a directory is made or is there already, or one above it
is missing. -/
theorem makeDirectory_of_open {place : Place} (hplain : fs.Plain place) (hfits : Fits place)
    (hopen : fs.Open place) :
    (∃ made, fs.makeDirectory place = .ok made ∧ made.Paved place) ∨
      (fs.makeDirectory place = .error .exists ∧ fs.Paved place) ∨
      (fs.makeDirectory place = .error .noEntry ∧ ¬ fs.Paved place.dropLast) := by
  have hparent := List.dropLast_prefix place
  have hway := @walk_of_open fs maxLinks [] place.dropLast hplain.dropLast
    (hfits.above hparent).names (hopen.above hparent) (paved_nil fs)
  rw [List.nil_append] at hway
  obtain ⟨hwalk, hpaved⟩ | ⟨hwalk, hgap⟩ := hway
  · have hvacant := vacancy_of_paved hfits hwalk hpaved
    obtain hnone | hdir := hopen place List.prefix_rfl
    · have hmake : fs.makeDirectory place = .ok (fs.put place .directory) := by
        simp only [makeDirectory, hvacant, bind, Except.bind, hnone]
      have hmade := made_makeDirectory hplain hmake
      have hdone : (fs.put place .directory).isDirectory place = true := by
        rw [isDirectory_iff, entry?_put (ne_nil_of_missing hnone), if_pos rfl]
      exact .inl ⟨_, hmake, Paved.of_dropLast (fun _ hle => hmade.isDirectory (hpaved _ hle)) hdone⟩
    · have hmake : fs.makeDirectory place = .error .exists := by
        simp only [makeDirectory, hvacant, bind, Except.bind, hdir]
      exact .inr (.inl ⟨hmake, hpaved.of_dropLast (isDirectory_iff.mpr hdir)⟩)
  · have hnone : fs.vacancy place = .error .noEntry := by
      simp [vacancy, Nat.not_le.mpr hfits.path, hwalk, bind, Except.bind]
    simp only [makeDirectory, hnone, bind, Except.bind]
    exact .inr (.inr ⟨trivial, hgap⟩)

theorem Open.of_made {place below : Place} {made : FileSystem} (h : fs.Open place)
    (hmade : Made below fs made) : made.Open place := by
  intro above hle
  obtain heq | ⟨-, -, hdir⟩ := hmade above
  · rw [heq]
    exact h above hle
  · exact .inr hdir

/-- What can be made at once is made, whatever the depth. -/
theorem makeDirectories_go_or (depth : Nat) {place : Place} (hplain : fs.Plain place)
    (hfits : Fits place) (hopen : fs.Open place) :
    (∃ made, makeDirectories.go depth place fs = (made, none) ∧ made.Paved place) ∨
      (fs.makeDirectory place = .error .noEntry ∧ ¬ fs.Paved place.dropLast) := by
  obtain ⟨made, hmake, hpaved⟩ | ⟨hmake, hpaved⟩ | hgap := makeDirectory_of_open hplain hfits hopen
  · refine .inl ⟨made, ?_, hpaved⟩
    unfold makeDirectories.go
    rw [hmake]
  · refine .inl ⟨fs, ?_, hpaved⟩
    unfold makeDirectories.go
    simp only [hmake, leadsToDirectory_of_paved hplain hfits hpaved, if_true]
  · exact .inr hgap

/-- As many levels as there are names are enough to make all that is missing. -/
theorem makeDirectories_go_of_open (depth : Nat) {place : Place} (hplain : fs.Plain place)
    (hfits : Fits place) (hopen : fs.Open place) (hdepth : place.length ≤ depth) :
    ∃ made, makeDirectories.go depth place fs = (made, none) ∧ made.Paved place := by
  induction depth generalizing place with
  | zero =>
      obtain rfl := List.length_eq_zero_iff.mp (Nat.le_zero.mp hdepth)
      exact (makeDirectories_go_or 0 hplain hfits hopen).resolve_right
        fun hgap => hgap.2 (paved_nil fs)
  | succ depth ih =>
      obtain hmade | ⟨hmake, -⟩ := makeDirectories_go_or (depth + 1) hplain hfits hopen
      · exact hmade
      · have hparent := List.dropLast_prefix place
        have hlength : place.dropLast.length ≤ depth := by
          rw [List.length_dropLast]
          omega
        obtain ⟨above, hgo, hpaved⟩ :=
          ih hplain.dropLast (hfits.above hparent) (hopen.above hparent) hlength
        have hmade := made_makeDirectories_go depth hplain.dropLast
        rw [hgo] at hmade
        -- The directory above is there now, so that nothing is missing any more.
        have hplace := hplain.of_link?_eq hmade.link?_eq
        obtain ⟨made, hagain, hdone⟩ | ⟨hagain, hdone⟩ | ⟨-, hgap⟩ :=
          makeDirectory_of_open hplace hfits (hopen.of_made hmade)
        · exact ⟨made, by simp only [makeDirectories.go, hmake, hgo, hagain], hdone⟩
        · have hleads := leadsToDirectory_of_paved hplace hfits hdone
          refine ⟨above, ?_, hdone⟩
          simp only [makeDirectories.go, hmake, hgo, hagain, hleads, if_true]
        · exact absurd hpaved hgap

/-- **Making directories**: where the way is open, they are all there in the end. -/
theorem makeDirectories_of_open {place : Place} (hplain : fs.Plain place) (hfits : Fits place)
    (hopen : fs.Open place) : ∃ made, fs.makeDirectories place = (made, none) ∧ made.Paved place :=
  makeDirectories_go_of_open place.length hplain hfits hopen (Nat.le_refl _)

/-! ## Storing a file -/

/-- **A file can be written** where its place fits, is led to by directories and is
no directory itself. -/
theorem write_ok_iff {place : Place} (hplain : fs.Plain place) (content : List UInt8) :
    (∃ made, fs.write place content = .ok made) ↔
      Fits place ∧ fs.Led [] place ∧ fs.entry? place ≠ some .directory := by
  have hfresh : fs.walk true maxLinks [] place = .ok place ↔
      (∀ name ∈ place, sizeOf name ≤ maxNameSize) ∧ fs.Led [] place :=
    @walk_fresh_iff fs maxLinks [] place hplain
  constructor
  · rintro ⟨made, h⟩
    have hnot := (write_eq hplain h).1
    simp only [write] at h
    split at h
    · cases h
    · next hpath =>
      obtain ⟨found, hwalk, -⟩ := ok_of_bind h
      obtain rfl : found = place := walk_eq hplain hwalk
      obtain ⟨hnames, hled⟩ := hfresh.mp hwalk
      exact ⟨⟨Nat.lt_of_not_le hpath, hnames⟩, hled, hnot⟩
  · rintro ⟨hfits, hled, hnot⟩
    have hwalk := hfresh.mpr ⟨hfits.names, hled⟩
    refine ⟨fs.put place (.file content), ?_⟩
    simp only [write, Nat.not_le.mpr hfits.path, if_false, hwalk, bind, Except.bind]

/-- Nothing is in the way of a file at the place: directories or nothing above it,
and no directory at the place itself. -/
structure Clear (fs : FileSystem) (place : Place) : Prop where
  above : ∀ above, above <+: place → above ≠ place →
    fs.entry? above = none ∨ fs.entry? above = some .directory
  place : fs.entry? place ≠ some .directory

/-- What has become of a file system in which a file was stored. -/
structure Stored (place : Place) (content : List UInt8) (before after : FileSystem) : Prop where
  file : after.entry? place = some (.file content)
  above : ∀ above, above <+: place → above ≠ place → after.entry? above = some .directory
  rest : ∀ other, ¬ other <+: place → after.entry? other = before.entry? other

/-- **A file can be stored** where its place fits and nothing is in the way. -/
theorem stores_iff {place : Place} (hplain : fs.Plain place) (content : List UInt8) :
    (∃ made wrote, fs.makeDirectories place.dropLast = (made, none) ∧
      made.write place content = .ok wrote) ↔ Fits place ∧ fs.Clear place := by
  constructor
  · rintro ⟨made, wrote, hmake, hwrite⟩
    have hmade := made_of_makeDirectories hplain.dropLast hmake
    obtain ⟨hfits, hled, hnot⟩ :=
      (write_ok_iff (hplain.of_link?_eq hmade.link?_eq) content).mp ⟨wrote, hwrite⟩
    refine ⟨hfits, ?above, ?place⟩
    case above =>
      intro above hle hne
      obtain heq | ⟨-, hnone, -⟩ := hmade above
      · exact .inr (heq ▸ isDirectory_iff.mp (hled above hle hne))
      · exact .inl hnone
    case place =>
      intro hdir
      obtain heq | ⟨-, hnone, -⟩ := hmade place
      · exact hnot (heq.trans hdir)
      · rw [hdir] at hnone
        cases hnone
  · rintro ⟨hfits, hclear⟩
    have hroot := ne_nil_of_not_directory hclear.place
    have hparent := List.dropLast_prefix place
    have hopen : fs.Open place.dropLast := by
      intro above hle
      obtain ⟨hle, hne⟩ := (prefix_dropLast_iff hroot).mp hle
      exact hclear.above above hle hne
    obtain ⟨made, hmake, hpaved⟩ :=
      makeDirectories_of_open hplain.dropLast (hfits.above hparent) hopen
    have hmade := made_of_makeDirectories hplain.dropLast hmake
    have hled : made.Led [] place := fun above hle hne =>
      hpaved above ((prefix_dropLast_iff hroot).mpr ⟨hle, hne⟩)
    have hnot : made.entry? place ≠ some .directory := by
      obtain heq | ⟨hle, -⟩ := hmade place
      · rw [heq]
        exact hclear.place
      · exact absurd rfl ((prefix_dropLast_iff hroot).mp hle).2
    obtain ⟨wrote, hwrite⟩ :=
      (write_ok_iff (hplain.of_link?_eq hmade.link?_eq) content).mpr ⟨hfits, hled, hnot⟩
    exact ⟨made, wrote, hmake, hwrite⟩

/-- What comes of storing a file can be told from its place and content. -/
theorem stored_of_write {place : Place} {content : List UInt8} {made wrote : FileSystem}
    (hplain : fs.Plain place) (hmake : fs.makeDirectories place.dropLast = (made, none))
    (hwrite : made.write place content = .ok wrote) : Stored place content fs wrote := by
  have hmade := made_of_makeDirectories hplain.dropLast hmake
  have hplace := hplain.of_link?_eq hmade.link?_eq
  obtain ⟨-, hled, -⟩ := (write_ok_iff hplace content).mp ⟨wrote, hwrite⟩
  obtain ⟨hnot, rfl⟩ := write_eq hplace hwrite
  have hroot := ne_nil_of_not_directory hnot
  constructor
  case file => rw [entry?_put hroot, if_pos rfl]
  case above =>
    intro above hle hne
    rw [entry?_put hroot, if_neg (Ne.symm hne)]
    exact isDirectory_iff.mp (hled above hle hne)
  case rest =>
    intro other hnot
    have hne : place ≠ other := fun e => hnot (e ▸ List.prefix_rfl)
    rw [entry?_put hroot, if_neg hne]
    obtain heq | ⟨hle, -⟩ := hmade other
    · exact heq
    · exact absurd (hle.trans (List.dropLast_prefix place)) hnot

/-! ## Two files -/

/-- Neither place is above the other one, and they are not the same. -/
structure Beside (place other : Place) : Prop where
  not_above : ¬ place <+: other
  not_below : ¬ other <+: place

/-- **Step**: after a file was stored, another one is clear if it was so before and
the two places are the same or beside each other. -/
theorem Stored.clear_iff {place other : Place} {content : List UInt8} {after : FileSystem}
    (h : Stored place content fs after) (hclear : fs.Clear place) :
    after.Clear other ↔ fs.Clear other ∧ (place = other ∨ Beside place other) := by
  constructor
  · intro hafter
    have hsame : place = other ∨ Beside place other := by
      by_cases hne : place = other
      · exact .inl hne
      · refine .inr ⟨fun hle => ?_, fun hle => ?_⟩
        · have hopen := hafter.above place hle hne
          rw [h.file] at hopen
          obtain hopen | hopen := hopen <;> cases hopen
        · exact hafter.place (h.above other hle (Ne.symm hne))
    refine ⟨⟨fun above hle hne => ?_, ?_⟩, hsame⟩
    · by_cases hway : above <+: place
      · refine hclear.above above hway ?_
        rintro rfl
        cases hsame with
        | inl heq => exact hne heq
        | inr hbeside => exact hbeside.not_above hle
      · rw [← h.rest above hway]
        exact hafter.above above hle hne
    · cases hsame with
      | inl heq => exact heq ▸ hclear.place
      | inr hbeside =>
          rw [← h.rest other hbeside.not_below]
          exact hafter.place
  · rintro ⟨hother, hsame⟩
    constructor
    case above =>
      intro above hle hne
      by_cases hway : above <+: place
      · refine .inr (h.above above hway ?_)
        rintro rfl
        cases hsame with
        | inl heq => exact hne heq
        | inr hbeside => exact hbeside.not_above hle
      · rw [h.rest above hway]
        exact hother.above above hle hne
    case place =>
      cases hsame with
      | inl heq =>
          rw [← heq, h.file]
          exact nofun
      | inr hbeside =>
          rw [h.rest other hbeside.not_below]
          exact hother.place

end SchemeCheck.FileSystem
