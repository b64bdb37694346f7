import SchemeCheck.Proofs.Fixture.Contents

/-!
# SchemeCheck.Proofs.Fixture.Failure

Which file keeps the files of a plan from being written.  The files are written one
after another, so there is one of which this is told: the others before it are
written, and it fails where these have left the file system
(`materialize_eq_error_iff`).  With that, what holds of the failures of one file
holds of those of a run: the encoding that is looked up is the given one
(`lookup_of_materialize`), and what is not resolved is the root or a declared name
(`materialize_unresolved_iff`).
-/

namespace SchemeCheck.Fixture

variable {cwd : Place} {root : Path} {encoding : Text} {fs : FileSystem}

/-! ## One file -/

/-- A name has no place because of a fault, or because a path is not resolved. -/
theorem locate_error {name : Text} {failure : Failure}
    (h : locate fs cwd root name = .error failure) :
    (∃ fault, failure = .fault fault) ∨ ∃ cause, failure = .unresolved cause := by
  unfold locate at h
  split at h
  · exact .inl ⟨_, (Except.error.inj h).symm⟩
  · split at h
    · exact .inr ⟨_, (Except.error.inj h).symm⟩
    · split at h
      · exact .inr ⟨_, (Except.error.inj h).symm⟩
      · split at h
        · cases h
        · exact .inl ⟨_, (Except.error.inj h).symm⟩

/-- A file is not written because its name has no place, because of a fault, or
because the encoding does not exist. -/
theorem writeFile_error {name content : Text} {failure : Failure}
    (h : (writeFile cwd root encoding name content fs).result = .error failure) :
    locate fs cwd root name = .error failure ∨ (∃ fault, failure = .fault fault) ∨
      ∃ cause, failure = .encoding cause ∧ Encoding.lookup encoding = .error cause := by
  unfold writeFile at h
  cases hlocate : locate fs cwd root name with
  | error other =>
      simp only [hlocate] at h
      exact .inl h
  | ok place =>
      refine .inr ?_
      simp only [hlocate] at h
      split at h
      · exact .inl ⟨_, (Except.error.inj h).symm⟩
      · split at h
        · next cause hlookup => exact .inr ⟨cause, (Except.error.inj h).symm, hlookup⟩
        · refine .inl ?_
          split at h
          · exact ⟨_, (Except.error.inj h).symm⟩
          · split at h
            · exact ⟨_, (Except.error.inj h).symm⟩
            · cases h

theorem lookup_of_writeFile {name content : Text} {cause : Encoding.LookupFailure}
    (h : (writeFile cwd root encoding name content fs).result = .error (.encoding cause)) :
    Encoding.lookup encoding = .error cause := by
  obtain hlocate | ⟨fault, hfault⟩ | ⟨other, hother, hlookup⟩ := writeFile_error h
  · obtain ⟨fault, hfault⟩ | ⟨other, hother⟩ := locate_error hlocate
    · cases hfault
    · cases hother
  · cases hfault
  · cases hother
    exact hlookup

theorem writeFile_unresolved_iff {name content : Text} {cause : FileSystem.Unresolved} :
    (writeFile cwd root encoding name content fs).result = .error (.unresolved cause) ↔
      locate fs cwd root name = .error (.unresolved cause) := by
  constructor
  · intro h
    obtain hlocate | ⟨fault, hfault⟩ | ⟨other, hother, -⟩ := writeFile_error h
    · exact hlocate
    · cases hfault
    · cases hother
  · intro hlocate
    simp only [writeFile, hlocate]

/-! ## All files -/

/-- **Step**: either the first file is not written, or one of the others is not. -/
theorem materialize_cons_eq_error_iff {name content : Text} {rest : List (Text × Text)}
    {failure : Failure} :
    (materialize cwd root encoding ((name, content) :: rest) fs).result = .error failure ↔
      (writeFile cwd root encoding name content fs).result = .error failure ∨
        ∃ place, (writeFile cwd root encoding name content fs).result = .ok place ∧
          (materialize cwd root encoding rest
            (writeFile cwd root encoding name content fs).fs).result = .error failure := by
  cases hfirst : (writeFile cwd root encoding name content fs).result with
  | error cause => simp [materialize, hfirst]
  | ok place =>
      cases hrest : (materialize cwd root encoding rest
          (writeFile cwd root encoding name content fs).fs).result with
      | error cause => simp [materialize, hfirst, hrest, Except.map]
      | ok others => simp [materialize, hfirst, hrest, Except.map]

/-- **Run**: files are not written if one of them is not, where those before it are. -/
theorem materialize_eq_error_iff {files : List (Text × Text)} {failure : Failure} :
    (materialize cwd root encoding files fs).result = .error failure ↔
      ∃ before name content after places, files = before ++ (name, content) :: after ∧
        (materialize cwd root encoding before fs).result = .ok places ∧
        (writeFile cwd root encoding name content
          (materialize cwd root encoding before fs).fs).result = .error failure := by
  induction files generalizing fs with
  | nil => simp [materialize]
  | cons file rest ih =>
      obtain ⟨name, content⟩ := file
      rw [materialize_cons_eq_error_iff]
      constructor
      · rintro (hfirst | ⟨place, hfirst, hrest⟩)
        · exact ⟨[], name, content, rest, [], rfl, rfl, hfirst⟩
        · obtain ⟨before, other, text, after, places, rfl, hbefore, hother⟩ := ih.mp hrest
          refine ⟨(name, content) :: before, other, text, after, place :: places, rfl, ?_, ?_⟩
          · simp only [materialize, hfirst, hbefore, Except.map]
          · simp only [materialize, hfirst, hother]
      · rintro ⟨before, other, text, after, places, hfiles, hbefore, hother⟩
        cases before with
        | nil =>
            cases hfiles
            exact .inl hother
        | cons file before =>
            obtain ⟨rfl, rfl⟩ := List.cons.inj hfiles
            obtain ⟨first, place, others, rfl, hfirst, hothers, -, hfs⟩ :=
              materialize_cons_ok hbefore
            rw [hfs] at hother
            exact .inr ⟨place, hfirst,
              ih.mpr ⟨before, other, text, after, others, rfl, hothers, hother⟩⟩

/-- Files are not written for an encoding only if that does not exist. -/
theorem lookup_of_materialize {files : List (Text × Text)} {cause : Encoding.LookupFailure}
    (h : (materialize cwd root encoding files fs).result = .error (.encoding cause)) :
    Encoding.lookup encoding = .error cause := by
  obtain ⟨before, name, content, after, places, -, -, hfile⟩ := materialize_eq_error_iff.mp h
  exact lookup_of_writeFile hfile

/-- What is not resolved is the name of a file, or the root for it. -/
theorem materialize_unresolved_iff {files : List (Text × Text)} {cause : FileSystem.Unresolved} :
    (materialize cwd root encoding files fs).result = .error (.unresolved cause) ↔
      ∃ before name content after places, files = before ++ (name, content) :: after ∧
        (materialize cwd root encoding before fs).result = .ok places ∧
        locate (materialize cwd root encoding before fs).fs cwd root name =
          .error (.unresolved cause) := by
  simp only [materialize_eq_error_iff, writeFile_unresolved_iff]

end SchemeCheck.Fixture
