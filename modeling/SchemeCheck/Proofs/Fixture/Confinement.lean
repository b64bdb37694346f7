import SchemeCheck.Fixture
import SchemeCheck.Proofs.FileSystem.Frame

/-!
# SchemeCheck.Proofs.Fixture.Confinement

Writing the files of a plan stays below the fixture root.  The place of a file
is told from the links alone (`locate_eq_of_link?_eq`), and there is no link at
the place of a file or above it (`plain_of_locate`); so writing it makes nothing
but the file and directories above it (`written_writeFile`), the links stay as
they are, and with them the places of the files after it.  By induction on the
files that holds of all of them, however far the writing comes
(`written_materialize`).

Above the root all directories exist, and so nothing is made there:
`materialize_confined`.
-/

namespace SchemeCheck.Fixture

open FileSystem (Loopless Plain Valid Written)

variable {fs : FileSystem} {cwd : Place} {root : Path}

/-- The place of a file of the plan. -/
def Declared (fs : FileSystem) (cwd : Place) (root : Path) (files : List (Text × Text))
    (place : Place) : Prop :=
  ∃ name content, (name, content) ∈ files ∧ locate fs cwd root name = .ok place

/-! ## The place of a file -/

/-- A place that is accepted is what the name resolves to, and lies strictly
below the root. -/
theorem locate_ok {name : Text} {place : Place} (h : locate fs cwd root name = .ok place) :
    place = fs.resolve (fs.resolve cwd root) (Path.ofText name) ∧
      fs.resolve cwd root <+: place ∧ place ≠ fs.resolve cwd root := by
  unfold locate at h
  split at h
  · cases h
  · split at h
    · cases h
    · next base hbase =>
      split at h
      · cases h
      · next there hthere =>
        split at h
        · next hbelow =>
          rw [Bool.and_eq_true, List.isPrefixOf_iff_prefix, decide_eq_true_iff] at hbelow
          obtain rfl := Except.ok.inj h
          rw [FileSystem.resolve_of_tryResolve hbase, FileSystem.resolve_of_tryResolve hthere]
          exact ⟨rfl, hbelow⟩
        · cases h

theorem ne_nil_of_locate {name : Text} {place : Place}
    (h : locate fs cwd root name = .ok place) : place ≠ [] := by
  obtain ⟨-, hbelow, hne⟩ := locate_ok h
  rintro rfl
  exact hne (List.prefix_nil.mp hbelow).symm

theorem dropLast_ne_of_locate {name : Text} {place : Place}
    (h : locate fs cwd root name = .ok place) : place.dropLast ≠ place := by
  intro e
  have hlength := congrArg List.length e
  rw [List.length_dropLast] at hlength
  have hpos := List.length_pos_iff.mpr (ne_nil_of_locate h)
  omega

/-- With the same links every name has the same place. -/
theorem locate_eq_of_link?_eq {other : FileSystem} (hloop : fs.Loopless)
    (hlink : other.link? = fs.link?) (name : Text) :
    locate other cwd root name = locate fs cwd root name := by
  have hresolve := hloop.tryResolve_eq_of_link?_eq hlink
  simp only [locate, hresolve]

/-- No link stands at the place of a file or above it. -/
theorem plain_of_locate (hloop : fs.Loopless) (hbase : fs.Plain (fs.resolve cwd root))
    {name : Text} {place : Place} (h : locate fs cwd root name = .ok place) : fs.Plain place := by
  rw [(locate_ok h).1]
  exact hloop.plain_resolve hbase _

/-! ## One file -/

/-- A file that has a place is at most written there. -/
theorem written_writeFile_of_locate {name : Text} {place : Place}
    (h : locate fs cwd root name = .ok place) (hplain : fs.Plain place) (encoding content : Text) :
    Written (· = place) fs (writeFile cwd root encoding name content fs).fs := by
  have hmade := FileSystem.written_makeDirectories hplain (List.dropLast_prefix place)
    (dropLast_ne_of_locate h)
  simp only [writeFile, h]
  cases hmake : fs.makeDirectories place.dropLast with
  | mk made failure? =>
      rw [hmake] at hmade
      cases failure? with
      | some failure => exact hmade
      | none =>
          dsimp only
          cases Encoding.lookup encoding with
          | error cause => exact hmade
          | ok encoding =>
              dsimp only
              cases encoding.encode content with
              | error cause => exact hmade
              | ok bytes =>
                  dsimp only
                  cases hwrite : made.write place bytes with
                  | error errno => exact hmade
                  | ok wrote =>
                      have hplace : made.Plain place := hplain.of_written hplain hmade
                      exact hmade.trans (FileSystem.written_write hplace hwrite)

/-- **Step**: whatever becomes of a name, at most the file at its place is
written. -/
theorem written_writeFile (hloop : fs.Loopless) (hbase : fs.Plain (fs.resolve cwd root))
    (encoding name content : Text) :
    Written (fun place => locate fs cwd root name = .ok place) fs
      (writeFile cwd root encoding name content fs).fs := by
  cases hlocate : locate fs cwd root name with
  | error fault =>
      simp only [writeFile, hlocate]
      exact Written.refl _ fs
  | ok place =>
      have hwritten := written_writeFile_of_locate hlocate (plain_of_locate hloop hbase hlocate)
        encoding content
      exact hwritten.mono fun _ he => congrArg Except.ok he.symm

/-! ## All files -/

/-- **Run**: whatever becomes of the files, at most they are written. -/
theorem written_materialize (hloop : fs.Loopless) (hbase : fs.Plain (fs.resolve cwd root))
    (encoding : Text) (files : List (Text × Text)) :
    Written (Declared fs cwd root files) fs (materialize cwd root encoding files fs).fs := by
  induction files generalizing fs with
  | nil => exact Written.refl _ fs
  | cons file rest ih =>
      obtain ⟨name, content⟩ := file
      have hstep := written_writeFile hloop hbase encoding name content
      simp only [materialize]
      generalize writeFile cwd root encoding name content fs = first at hstep
      have hlink : first.fs.link? = fs.link? := hstep.link?_eq fun place hlocate =>
        (plain_of_locate hloop hbase hlocate).link? place List.prefix_rfl
      have hfirst : Written (Declared fs cwd root ((name, content) :: rest)) fs first.fs :=
        hstep.mono fun place hlocate => ⟨name, content, List.mem_cons_self, hlocate⟩
      cases first.result with
      | error failure => exact hfirst
      | ok place =>
          have hbase' : first.fs.Plain (first.fs.resolve cwd root) := by
            rw [hloop.resolve_eq_of_link?_eq hlink]
            exact hbase.of_link?_eq hlink
          refine hfirst.trans ((ih (hloop.of_link?_eq hlink) hbase').mono ?_)
          -- The files that are left have the places they had.
          rintro place ⟨other, text, hmem, hlocate⟩
          rw [locate_eq_of_link?_eq hloop hlink] at hlocate
          exact ⟨other, text, List.mem_cons_of_mem _ hmem, hlocate⟩

/-- **Nothing outside of the fixture root is touched**, and below it only the
declared files and directories that were missing above them. -/
theorem materialize_confined (hvalid : fs.Valid) (hloop : fs.Loopless)
    (hroot : fs.isDirectory (fs.resolve cwd root) = true) (encoding : Text)
    (files : List (Text × Text)) :
    let base := fs.resolve cwd root
    let after := (materialize cwd root encoding files fs).fs
    (∀ place, ¬ base <+: place → after.entry? place = fs.entry? place) ∧
    (∀ place, base <+: place → ¬ Declared fs cwd root files place →
      ¬ (fs.entry? place = none ∧ after.entry? place = some .directory ∧
        ∃ file, Declared fs cwd root files file ∧ place <+: file ∧ place ≠ file) →
      after.entry? place = fs.entry? place) := by
  intro base after
  have hwritten : Written (Declared fs cwd root files) fs after :=
    written_materialize hloop (hvalid.plain hroot) encoding files
  constructor
  · intro place houtside
    obtain heq | ⟨hnone, -, file, hfile, hbelow, -⟩ | ⟨hfile, -⟩ := hwritten place
    · exact heq
    · obtain ⟨name, content, -, hlocate⟩ := hfile
      -- Two places above the file: the one that is not below the root is above it.
      have habove : place <+: base :=
        (List.prefix_or_prefix_of_prefix hbelow (locate_ok hlocate).2.1).resolve_right houtside
      have hdir := hvalid.isDirectory_above hroot habove
      rw [FileSystem.isDirectory_iff, hnone] at hdir
      cases hdir
    · obtain ⟨name, content, -, hlocate⟩ := hfile
      exact absurd (locate_ok hlocate).2.1 houtside
  · intro place _ hfile hmade
    obtain heq | hdir | hwrote := hwritten place
    · exact heq
    · exact absurd hdir hmade
    · exact absurd hwrote.1 hfile

/-- Names that lead out of the root, through a link or by `..`, and one that
leads back into it. -/
theorem materialize_confined_links :
    let fs : FileSystem := { entries := [
      (["o".toList], .directory), (["r".toList], .directory),
      (["r".toList, "out".toList], .link "../o".toList),
      (["r".toList, "back".toList], .link "out/../r/in".toList)] }
    let root := Path.ofText "/r".toList
    let files := [("back/a".toList, "1".toList), ("out/b".toList, "2".toList),
      ("../o/c".toList, "3".toList)]
    let after := (materialize [] root "utf-8".toList files fs).fs
    ∀ place, ¬ ["r".toList] <+: place → after.entry? place = fs.entry? place := by
  intro fs root files after place houtside
  have hvalid : fs.Valid := Valid.of_keys (by decide +kernel)
  have hloop : fs.Loopless := Loopless.of_keys 2 (by decide +kernel)
  have hbase : fs.resolve [] root = ["r".toList] := by decide +kernel
  have hroot : fs.isDirectory (fs.resolve [] root) = true := by decide +kernel
  have hconfined := materialize_confined hvalid hloop hroot "utf-8".toList files
  exact hconfined.1 place (hbase ▸ houtside)

end SchemeCheck.Fixture
