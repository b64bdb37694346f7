import Mathlib.Data.List.Induction
import SchemeCheck.Proofs.FileSystem.Links

/-!
# SchemeCheck.Proofs.FileSystem.Frame

What the operations on a file system leave alone.  `Written files before after`
says that at most the given files have been written, with the directories above
them made where nothing stood.  It is reflexive and transitive, and each
operation is one step of it: `written_makeDirectories` and `written_write`.
`Made place before after` says the same of the directories alone.

The operations walk to a place and follow links on the way.  At a plain place
there is none, so they reach the place itself (`walk_eq`); and writing there
puts no link in another's place, so plain places stay plain
(`Written.link?_eq`).
-/

namespace SchemeCheck.FileSystem

variable {fs : FileSystem}

/-! ## Entries -/

theorem entry?_put {place : Place} (h : place ≠ []) (entry : Entry) (other : Place) :
    entry? (fs.put place entry) other = if place = other then some entry else fs.entry? other := by
  unfold entry? put
  rw [Table.get?_put]
  by_cases hroot : other = []
  · rw [if_pos hroot, if_pos hroot, if_neg (fun e => h (e.trans hroot))]
  · rw [if_neg hroot, if_neg hroot]

/-- At the root there is a directory. -/
theorem ne_nil_of_not_directory {place : Place} (h : fs.entry? place ≠ some .directory) :
    place ≠ [] := by
  rintro rfl
  exact h rfl

theorem ne_nil_of_missing {place : Place} (h : fs.entry? place = none) : place ≠ [] :=
  ne_nil_of_not_directory (by rw [h]; exact nofun)

/-- A file system as it comes about: whatever stands somewhere stands in a
directory, under a name. -/
structure Valid (fs : FileSystem) : Prop where
  parent : ∀ place, fs.entry? place ≠ none → fs.isDirectory place.dropLast = true
  names : ∀ place, fs.entry? place ≠ none → ∀ name ∈ place, name ≠ ['.'] ∧ name ≠ ['.', '.']

theorem isDirectory_iff {place : Place} :
    fs.isDirectory place = true ↔ fs.entry? place = some .directory := by
  simp [isDirectory]

namespace Valid

/-- It is enough to look at the entries of the table. -/
theorem of_keys (h : ∀ place ∈ Table.keys fs.entries, fs.isDirectory place.dropLast = true ∧
    ∀ name ∈ place, name ≠ ['.'] ∧ name ≠ ['.', '.']) : fs.Valid where
  parent place hentry := by
    by_cases hroot : place = []
    · rw [hroot]; rfl
    · exact (h place (mem_keys_of_stands hentry hroot)).1
  names place hentry := by
    by_cases hroot : place = []
    · rw [hroot]; exact nofun
    · exact (h place (mem_keys_of_stands hentry hroot)).2

/-- Above a directory there are directories only. -/
theorem isDirectory_above (h : fs.Valid) {place above : Place}
    (hdir : fs.isDirectory place = true) (hle : above <+: place) :
    fs.isDirectory above = true := by
  induction place using List.reverseRecOn with
  | nil => rw [List.prefix_nil.mp hle]; exact hdir
  | append_singleton front name ih =>
      cases List.prefix_concat_iff.mp hle with
      | inl heq => rw [heq]; exact hdir
      | inr hfront =>
          have hentry : fs.entry? (front ++ [name]) ≠ none := by
            rw [isDirectory_iff.mp hdir]
            exact nofun
          have hparent := h.parent _ hentry
          rw [List.dropLast_concat] at hparent
          exact ih hparent hfront

/-- A directory stands at a plain place. -/
theorem plain (h : fs.Valid) {place : Place} (hdir : fs.isDirectory place = true) :
    fs.Plain place where
  link? above hle := by
    rw [FileSystem.link?, isDirectory_iff.mp (h.isDirectory_above hdir hle)]
  names := h.names place (by simp [isDirectory_iff.mp hdir])

end Valid

/-! ## Written files -/

/-- At most the given files have been written, and at most missing directories
above them have been made. -/
def Written (files : Place → Prop) (before after : FileSystem) : Prop :=
  ∀ place,
    after.entry? place = before.entry? place ∨
    (before.entry? place = none ∧ after.entry? place = some .directory ∧
      ∃ file, files file ∧ place <+: file ∧ place ≠ file) ∨
    (files place ∧ before.entry? place ≠ some .directory ∧
      ∃ content, after.entry? place = some (.file content))

namespace Written

variable {files more : Place → Prop} {before middle after : FileSystem}

theorem refl (files : Place → Prop) (fs : FileSystem) : Written files fs fs :=
  fun _ => .inl rfl

theorem mono (h : Written files before after) (hle : ∀ place, files place → more place) :
    Written more before after := by
  intro place
  obtain heq | ⟨hnone, hdir, file, hfile, hbelow⟩ | ⟨hfile, hcontent⟩ := h place
  · exact .inl heq
  · exact .inr (.inl ⟨hnone, hdir, file, hle file hfile, hbelow⟩)
  · exact .inr (.inr ⟨hle place hfile, hcontent⟩)

/-- What is made or written first is written again or stays. -/
theorem trans (h : Written files before middle) (h' : Written files middle after) :
    Written files before after := by
  intro place
  obtain heq | ⟨hnone, hdir, hbelow⟩ | ⟨hfile, hnot, content, hcontent⟩ := h place
  · rw [← heq]
    exact h' place
  · obtain heq' | ⟨hnone', -⟩ | ⟨-, hnot', -⟩ := h' place
    · exact .inr (.inl ⟨hnone, heq'.trans hdir, hbelow⟩)
    · rw [hdir] at hnone'; cases hnone'
    · exact absurd hdir hnot'
  · obtain heq' | ⟨hnone', -⟩ | ⟨-, -, hcontent'⟩ := h' place
    · exact .inr (.inr ⟨hfile, hnot, content, heq'.trans hcontent⟩)
    · rw [hcontent] at hnone'; cases hnone'
    · exact .inr (.inr ⟨hfile, hnot, hcontent'⟩)

/-- **Where no file takes the place of a link, the links stay as they are.** -/
theorem link?_eq (h : Written files before after)
    (hfiles : ∀ place, files place → before.link? place = none) :
    after.link? = before.link? := by
  funext place
  obtain heq | ⟨hnone, hdir, -⟩ | ⟨hfile, -, content, hcontent⟩ := h place
  · simp only [link?, heq]
  · simp only [link?, hnone, hdir]
  · rw [hfiles place hfile]
    simp only [link?, hcontent]

end Written

/-! ## Walking to a plain place -/

@[simp] theorem walk_nil (fs : FileSystem) (fresh : Bool) (links : Nat) (here : Place) :
    fs.walk fresh links here [] = .ok here := by
  cases links <;> rfl

/-- **Step**: past what is no link a walk goes on, or ends at a name under which
nothing stands. -/
theorem walk_cons {fresh : Bool} {links : Nat} {here : Place} {name : Text} {rest : List Text}
    (hname : name ≠ ['.'] ∧ name ≠ ['.', '.']) (hlink : fs.link? (here ++ [name]) = none) :
    fs.walk fresh links here (name :: rest) =
      if fs.isDirectory here = false then .error .notDirectory
      else if maxNameSize < sizeOf name then .error .nameTooLong
      else if fs.entry? (here ++ [name]) = none then
        if fresh && rest.isEmpty then .ok (here ++ [name]) else .error .noEntry
      else fs.walk fresh links (here ++ [name]) rest := by
  have hstep : ∀ follow, fs.walkFrom fresh follow here (name :: rest) =
      if fs.isDirectory here = false then .error .notDirectory
      else if maxNameSize < sizeOf name then .error .nameTooLong
      else if fs.entry? (here ++ [name]) = none then
        if fresh && rest.isEmpty then .ok (here ++ [name]) else .error .noEntry
      else fs.walkFrom fresh follow (here ++ [name]) rest := by
    intro follow
    rw [walkFrom, if_neg hname.1, if_neg hname.2]
    unfold link? at hlink
    cases hentry : fs.entry? (here ++ [name]) with
    | none => simp
    | some entry =>
        rw [hentry] at hlink
        cases entry with
        | link target => cases hlink
        | directory | file content => simp
  cases links with
  | zero => exact hstep _
  | succ links => exact hstep _

/-- **To a plain place the way is the place itself.** -/
theorem walk_eq {fresh : Bool} {links : Nat} {here found : Place} {steps : List Text}
    (hplain : fs.Plain (here ++ steps)) (h : fs.walk fresh links here steps = .ok found) :
    found = here ++ steps := by
  induction steps generalizing here with
  | nil =>
      rw [walk_nil] at h
      rw [List.append_nil]
      exact (Except.ok.inj h).symm
  | cons name rest ih =>
      have hname := hplain.names name (by simp)
      have hlink := hplain.link? (here ++ [name]) ⟨rest, by simp⟩
      rw [List.append_cons] at hplain ⊢
      rw [walk_cons hname hlink] at h
      split_ifs at h with hhere hsize hnone hlast
      · obtain ⟨-, hrest⟩ := Bool.and_eq_true_iff.mp hlast
        rw [List.isEmpty_iff.mp hrest, List.append_nil]
        exact (Except.ok.inj h).symm
      · exact ih hplain h

/-- Of two steps that succeed the first one does. -/
theorem ok_of_bind {α β : Type} {first : Except Errno α} {next : α → Except Errno β} {b : β}
    (h : (first >>= next) = .ok b) : ∃ a, first = .ok a ∧ next a = .ok b := by
  cases first with
  | error errno => cases h
  | ok a => exact ⟨a, rfl, h⟩

/-- A new entry at a plain place is made there. -/
theorem vacancy_eq {place vacant : Place} (hplain : fs.Plain place)
    (h : fs.vacancy place = .ok vacant) : vacant = place := by
  simp only [vacancy] at h
  split at h
  · cases h
  · obtain ⟨parent, hwalk, h⟩ := ok_of_bind h
    have hparent : parent = place.dropLast := walk_eq hplain.dropLast hwalk
    split at h
    · cases h
    · split at h
      · cases h
      · rw [← Except.ok.inj h, hparent]
        cases place using List.reverseRecOn with
        | nil => rfl
        | append_singleton front name => simp

/-- A directory at a plain place is made there, where nothing stood. -/
theorem makeDirectory_eq {place : Place} {made : FileSystem} (hplain : fs.Plain place)
    (h : fs.makeDirectory place = .ok made) :
    fs.entry? place = none ∧ made = fs.put place .directory := by
  obtain ⟨vacant, hvacant, h⟩ := ok_of_bind h
  rw [vacancy_eq hplain hvacant] at h
  cases hentry : fs.entry? place with
  | none =>
      simp only [hentry] at h
      exact ⟨rfl, (Except.ok.inj h).symm⟩
  | some entry =>
      simp only [hentry] at h
      cases h

/-- A file at a plain place is written there, where no directory stood. -/
theorem write_eq {place : Place} {content : List UInt8} {made : FileSystem}
    (hplain : fs.Plain place) (h : fs.write place content = .ok made) :
    fs.entry? place ≠ some .directory ∧ made = fs.put place (.file content) := by
  simp only [write] at h
  split at h
  · cases h
  · obtain ⟨found, hwalk, h⟩ := ok_of_bind h
    have hfound : found = place := walk_eq hplain hwalk
    rw [hfound] at h
    split at h
    · cases h
    · next hnot => exact ⟨hnot, (Except.ok.inj h).symm⟩

/-! ## Operations -/

/-- A file that is written is written, and nothing else. -/
theorem written_write {place : Place} {content : List UInt8} {made : FileSystem}
    (hplain : fs.Plain place) (h : fs.write place content = .ok made) :
    Written (· = place) fs made := by
  obtain ⟨hnot, rfl⟩ := write_eq hplain h
  have hroot := ne_nil_of_not_directory hnot
  intro other
  rw [entry?_put hroot]
  by_cases hother : place = other
  · subst hother
    rw [if_pos rfl]
    exact .inr (.inr ⟨rfl, hnot, content, rfl⟩)
  · rw [if_neg hother]
    exact .inl rfl

theorem Plain.of_written {place file : Place} {after : FileSystem} (h : fs.Plain place)
    (hfile : fs.Plain file) (hwritten : Written (· = file) fs after) : after.Plain place :=
  h.of_link?_eq (hwritten.link?_eq fun _ he => he ▸ hfile.link? file List.prefix_rfl)

/-! ## Directories that are made -/

/-- At most missing directories have been made, at a place and above it. -/
def Made (place : Place) (before after : FileSystem) : Prop :=
  ∀ other, after.entry? other = before.entry? other ∨
    (other <+: place ∧ before.entry? other = none ∧ after.entry? other = some .directory)

namespace Made

variable {place below : Place} {before middle after : FileSystem}

theorem refl (place : Place) (fs : FileSystem) : Made place fs fs :=
  fun _ => .inl rfl

theorem mono (h : Made place before after) (hle : place <+: below) : Made below before after := by
  intro other
  obtain heq | ⟨habove, hnone, hdir⟩ := h other
  · exact .inl heq
  · exact .inr ⟨habove.trans hle, hnone, hdir⟩

theorem trans (h : Made place before middle) (h' : Made place middle after) :
    Made place before after := by
  intro other
  obtain heq | ⟨habove, hnone, hdir⟩ := h other
  · rw [← heq]
    exact h' other
  · obtain heq' | ⟨-, hnone', -⟩ := h' other
    · exact .inr ⟨habove, hnone, heq'.trans hdir⟩
    · rw [hdir] at hnone'; cases hnone'

/-- Directories stay. -/
theorem isDirectory (h : Made place before after) {other : Place}
    (hdir : before.isDirectory other = true) : after.isDirectory other = true := by
  rw [isDirectory_iff] at hdir ⊢
  obtain heq | ⟨-, -, hmade⟩ := h other
  · rw [heq, hdir]
  · exact hmade

/-- Making directories puts no link anywhere and takes none away. -/
theorem link?_eq (h : Made place before after) : after.link? = before.link? := by
  funext other
  obtain heq | ⟨-, hnone, hdir⟩ := h other
  · simp only [link?, heq]
  · simp only [link?, hnone, hdir]

/-- Directories above a file are among those that may be made for it. -/
theorem written (h : Made place before after) {file : Place} (hbelow : place <+: file)
    (hne : place ≠ file) : Written (· = file) before after := by
  intro other
  obtain heq | ⟨habove, hnone, hdir⟩ := h other
  · exact .inl heq
  · refine .inr (.inl ⟨hnone, hdir, file, rfl, habove.trans hbelow, ?_⟩)
    rintro rfl
    exact hne (hbelow.eq_of_length_le habove.length_le)

end Made

theorem made_makeDirectory {place : Place} {made : FileSystem} (hplain : fs.Plain place)
    (h : fs.makeDirectory place = .ok made) : Made place fs made := by
  obtain ⟨hnone, rfl⟩ := makeDirectory_eq hplain h
  have hroot := ne_nil_of_missing hnone
  intro other
  rw [entry?_put hroot]
  by_cases hother : place = other
  · subst hother
    rw [if_pos rfl]
    exact .inr ⟨List.prefix_rfl, hnone, rfl⟩
  · rw [if_neg hother]
    exact .inl rfl

/-- However many levels there are to make, nothing else is made. -/
theorem made_makeDirectories_go (depth : Nat) {place : Place} (hplain : fs.Plain place) :
    Made place fs (makeDirectories.go depth place fs).1 := by
  induction depth generalizing place with
  | zero =>
      unfold makeDirectories.go
      cases hmake : fs.makeDirectory place with
      | ok made => exact made_makeDirectory hplain hmake
      | error errno => cases errno <;> exact Made.refl place fs
  | succ depth ih =>
      unfold makeDirectories.go
      cases hmake : fs.makeDirectory place with
      | ok made => exact made_makeDirectory hplain hmake
      | error errno =>
          cases errno with
          | noEntry =>
              have habove := (ih hplain.dropLast).mono (List.dropLast_prefix place)
              dsimp only
              cases hgo : makeDirectories.go depth place.dropLast fs with
              | mk above failure? =>
                  rw [hgo] at habove
                  cases failure? with
                  | some failure => exact habove
                  | none =>
                      have hplace := hplain.of_link?_eq habove.link?_eq
                      dsimp only
                      cases hagain : above.makeDirectory place with
                      | ok made => exact habove.trans (made_makeDirectory hplace hagain)
                      | error errno => exact habove
          | _ => exact Made.refl place fs

/-- **Making directories makes directories**, however far it comes. -/
theorem made_makeDirectories {place : Place} (hplain : fs.Plain place) :
    Made place fs (fs.makeDirectories place).1 :=
  made_makeDirectories_go place.length hplain

theorem made_of_makeDirectories {place : Place} {made : FileSystem}
    {failure? : Option (Errno × Place)} (hplain : fs.Plain place)
    (h : fs.makeDirectories place = (made, failure?)) : Made place fs made := by
  have hmade := made_makeDirectories hplain
  rwa [h] at hmade

/-- The directories above a file are made for it. -/
theorem written_makeDirectories {place file : Place} (hplain : fs.Plain file)
    (hbelow : place <+: file) (hne : place ≠ file) :
    Written (· = file) fs (fs.makeDirectories place).1 :=
  (made_makeDirectories (hplain.above hbelow)).written hbelow hne

/-! ## Bare places -/

/-- Nothing stands below the place. -/
def Bare (fs : FileSystem) (place : Place) : Prop :=
  ∀ other, place <+: other → other ≠ place → fs.entry? other = none

/-- It is enough to look at the entries of the table. -/
theorem Bare.of_keys {place : Place} (h : ∀ key ∈ Table.keys fs.entries, place <+: key → key = place) :
    fs.Bare place := by
  intro other hbelow hne
  by_contra hstands
  have hroot : other ≠ [] := by
    rintro rfl
    exact hne (List.prefix_nil.mp hbelow).symm
  exact hne (h other (mem_keys_of_stands hstands hroot) hbelow)

/-- Making a bare directory leaves it bare. -/
theorem Bare.makeDirectories {place : Place} (h : fs.Bare place) (hplain : fs.Plain place) :
    (fs.makeDirectories place).1.Bare place := by
  intro other hbelow hne
  obtain heq | ⟨habove, -⟩ := made_makeDirectories hplain other
  · rw [heq, h other hbelow hne]
  · exact absurd (hbelow.eq_of_length_le habove.length_le).symm hne

end SchemeCheck.FileSystem
