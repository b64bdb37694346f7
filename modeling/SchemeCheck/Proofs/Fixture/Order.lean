import Mathlib.Data.List.Pairwise
import SchemeCheck.Proofs.FileSystem.Storing
import SchemeCheck.Proofs.Fixture.Contents

/-!
# SchemeCheck.Proofs.Fixture.Order

The order of the declared files does not matter.  All of them are written if each
could be written as the only one and none has its place above another one's
(`materialize_ok_iff`), and what stands where afterwards is told from the files,
whatever their order (`laid_materialize`).  So a permutation of the files is
written too, and leaves the same: `materialize_perm`.
-/

namespace SchemeCheck.Fixture

open FileSystem (Beside Fits Loopless Plain Stored Valid)

variable {fs : FileSystem} {cwd : Place} {root : Path} {encoding : Text}

/-! ## One file -/

/-- A file that can be written as the first one: its name leads below the root, its
content can be expressed, and its place fits and is clear. -/
def Storable (fs : FileSystem) (cwd : Place) (root : Path) (encoding : Text)
    (file : Text × Text) : Prop :=
  ∃ place bytes, locate fs cwd root file.1 = .ok place ∧ Encoded encoding file.2 bytes ∧
    Fits place ∧ fs.Clear place

theorem writeFile_ok_iff (hloop : fs.Loopless) (hbase : fs.Plain (fs.resolve cwd root))
    (name content : Text) :
    (∃ place, (writeFile cwd root encoding name content fs).result = .ok place) ↔
      Storable fs cwd root encoding (name, content) := by
  constructor
  · rintro ⟨place, h⟩
    obtain ⟨made, bytes, hlocate, hmake, hbytes, hwrite⟩ := writeFile_inv h
    have hplain := plain_of_locate hloop hbase hlocate
    have hstores := (FileSystem.stores_iff hplain bytes).mp ⟨made, _, hmake, hwrite⟩
    exact ⟨place, bytes, hlocate, hbytes, hstores⟩
  · rintro ⟨place, bytes, hlocate, ⟨found, hlookup, hencode⟩, hstores⟩
    have hplain := plain_of_locate hloop hbase hlocate
    obtain ⟨made, wrote, hmake, hwrite⟩ := (FileSystem.stores_iff hplain bytes).mpr hstores
    refine ⟨place, ?_⟩
    simp only [writeFile, hlocate, hmake, hlookup, hencode, hwrite]

/-- A file that is written is stored at its place. -/
theorem stored_writeFile (hloop : fs.Loopless) (hbase : fs.Plain (fs.resolve cwd root))
    {name content : Text} {place : Place}
    (h : (writeFile cwd root encoding name content fs).result = .ok place) :
    locate fs cwd root name = .ok place ∧ fs.Clear place ∧ ∃ bytes,
      Encoded encoding content bytes ∧
        Stored place bytes fs (writeFile cwd root encoding name content fs).fs := by
  obtain ⟨made, bytes, hlocate, hmake, hbytes, hwrite⟩ := writeFile_inv h
  have hplain := plain_of_locate hloop hbase hlocate
  obtain ⟨-, hclear⟩ := (FileSystem.stores_iff hplain bytes).mp ⟨made, _, hmake, hwrite⟩
  exact ⟨hlocate, hclear, bytes, hbytes, FileSystem.stored_of_write hplain hmake hwrite⟩

/-! ## Two files -/

/-- Two files of which neither has its place above the other one's. -/
def Compatible (fs : FileSystem) (cwd : Place) (root : Path) (file other : Text × Text) : Prop :=
  ∀ place below, locate fs cwd root file.1 = .ok place → locate fs cwd root other.1 = .ok below →
    place = below ∨ Beside place below

theorem Compatible.symm {file other : Text × Text} (h : Compatible fs cwd root file other) :
    Compatible fs cwd root other file := by
  intro place below hplace hbelow
  obtain heq | hbeside := h below place hbelow hplace
  · exact .inl heq.symm
  · exact .inr ⟨hbeside.not_below, hbeside.not_above⟩

/-- **Step**: a file can be written after another one if it could be written before
it and they are compatible. -/
theorem storable_writeFile_iff (hloop : fs.Loopless) (hbase : fs.Plain (fs.resolve cwd root))
    {name content : Text} {place : Place}
    (h : (writeFile cwd root encoding name content fs).result = .ok place)
    (file : Text × Text) :
    Storable (writeFile cwd root encoding name content fs).fs cwd root encoding file ↔
      Storable fs cwd root encoding file ∧ Compatible fs cwd root (name, content) file := by
  obtain ⟨hlocate, hclear, bytes, -, hstored⟩ := stored_writeFile hloop hbase h
  have hlink := link?_writeFile hloop hbase encoding name content
  unfold Storable
  simp only [locate_eq_of_link?_eq hloop hlink, hstored.clear_iff hclear]
  constructor
  · rintro ⟨below, bytes, hbelow, hbytes, hfits, hother, hsame⟩
    refine ⟨⟨below, bytes, hbelow, hbytes, hfits, hother⟩, fun first second hfirst hsecond => ?_⟩
    obtain rfl := Except.ok.inj (hlocate.symm.trans hfirst)
    obtain rfl := Except.ok.inj (hbelow.symm.trans hsecond)
    exact hsame
  · rintro ⟨⟨below, bytes, hbelow, hbytes, hfits, hother⟩, hcompatible⟩
    exact ⟨below, bytes, hbelow, hbytes, hfits, hother, hcompatible place below hlocate hbelow⟩

/-! ## All files -/

/-- **Run**: all files are written if each of them can be written as the first one,
and any two are compatible. -/
theorem materialize_ok_iff (hloop : fs.Loopless) (hbase : fs.Plain (fs.resolve cwd root))
    (files : List (Text × Text)) :
    (∃ places, (materialize cwd root encoding files fs).result = .ok places) ↔
      (∀ file ∈ files, Storable fs cwd root encoding file) ∧
        files.Pairwise (Compatible fs cwd root) := by
  induction files generalizing fs with
  | nil => exact iff_of_true ⟨[], rfl⟩ ⟨nofun, .nil⟩
  | cons file rest ih =>
      obtain ⟨name, content⟩ := file
      have hlink := link?_writeFile hloop hbase encoding name content
      have hrest := ih (hloop.of_link?_eq hlink) (plain_root_of_link?_eq hloop hbase hlink)
      have hsame : Compatible (writeFile cwd root encoding name content fs).fs cwd root =
          Compatible fs cwd root := by
        unfold Compatible
        simp only [locate_eq_of_link?_eq hloop hlink]
      rw [hsame] at hrest
      rw [List.forall_mem_cons, List.pairwise_cons]
      constructor
      · rintro ⟨places, h⟩
        obtain ⟨first, place, others, rfl, hfirst, hothers, -, -⟩ := materialize_cons_ok h
        obtain ⟨hstorable, hpairwise⟩ := hrest.mp ⟨others, hothers⟩
        have hboth := fun file hfile =>
          (storable_writeFile_iff hloop hbase hfirst file).mp (hstorable file hfile)
        exact ⟨⟨(writeFile_ok_iff hloop hbase name content).mp ⟨place, hfirst⟩,
          fun file hfile => (hboth file hfile).1⟩, fun file hfile => (hboth file hfile).2, hpairwise⟩
      · rintro ⟨⟨hstorable, hothers⟩, hcompatible, hpairwise⟩
        obtain ⟨place, hfirst⟩ := (writeFile_ok_iff hloop hbase name content).mpr hstorable
        obtain ⟨places, hplaces⟩ := hrest.mpr ⟨fun file hfile =>
          (storable_writeFile_iff hloop hbase hfirst file).mpr
            ⟨hothers file hfile, hcompatible file hfile⟩, hpairwise⟩
        refine ⟨place :: places, ?_⟩
        simp only [materialize, hfirst, hplaces, Except.map]

/-- What stands at a place when the files have been written. -/
inductive Laid (fs : FileSystem) (cwd : Place) (root : Path) (encoding : Text)
    (files : List (Text × Text)) (place : Place) : Option Entry → Prop
  | file {name content : Text} {bytes : List UInt8} (hmem : (name, content) ∈ files)
      (hlocate : locate fs cwd root name = .ok place) (hbytes : Encoded encoding content bytes) :
      Laid fs cwd root encoding files place (some (.file bytes))
  | above {below : Place} (hbelow : Declared fs cwd root files below) (hle : place <+: below)
      (hne : place ≠ below) : Laid fs cwd root encoding files place (some .directory)
  | rest (hnot : ∀ below, Declared fs cwd root files below → ¬ place <+: below) :
      Laid fs cwd root encoding files place (fs.entry? place)

/-- **Run**: what stands at a place is told from the files. -/
theorem laid_materialize (hloop : fs.Loopless) (hbase : fs.Plain (fs.resolve cwd root))
    {files : List (Text × Text)} {places : List Place}
    (h : (materialize cwd root encoding files fs).result = .ok places) (place : Place) :
    Laid fs cwd root encoding files place
      ((materialize cwd root encoding files fs).fs.entry? place) := by
  induction files generalizing fs places with
  | nil => exact .rest fun _ ⟨_, _, hmem, _⟩ => nomatch hmem
  | cons file rest ih =>
      obtain ⟨name, content⟩ := file
      obtain ⟨first, written, others, rfl, hfirst, hothers, -, hfs⟩ := materialize_cons_ok h
      obtain ⟨hlocate, -, bytes, hbytes, hstored⟩ := stored_writeFile hloop hbase hfirst
      have hlink := link?_writeFile hloop hbase encoding name content
      have hsame := @locate_eq_of_link?_eq fs cwd root _ hloop hlink
      have hlaid := ih (hloop.of_link?_eq hlink) (plain_root_of_link?_eq hloop hbase hlink) hothers
      rw [hfs]
      generalize FileSystem.entry? _ place = entry at hlaid ⊢
      cases hlaid with
      | file hmem hplace hcontent =>
          exact .file (List.mem_cons_of_mem _ hmem) (hsame _ ▸ hplace) hcontent
      | above hbelow hle hne =>
          obtain ⟨other, text, hmem, hother⟩ := hbelow
          exact .above ⟨other, text, List.mem_cons_of_mem _ hmem, hsame _ ▸ hother⟩ hle hne
      | rest hnot =>
          by_cases heq : place = written
          · rw [heq, hstored.file]
            exact .file List.mem_cons_self hlocate hbytes
          · by_cases hle : place <+: written
            · rw [hstored.above place hle heq]
              exact .above ⟨name, content, List.mem_cons_self, hlocate⟩ hle heq
            · rw [hstored.rest place hle]
              refine .rest ?_
              rintro below ⟨other, text, hmem, hother⟩ hbelow
              cases List.mem_cons.mp hmem with
              | inl hhead =>
                  obtain ⟨rfl, rfl⟩ := Prod.mk.inj hhead
                  obtain rfl := Except.ok.inj (hlocate.symm.trans hother)
                  exact hle hbelow
              | inr htail => exact hnot below ⟨other, text, htail, (hsame _).trans hother⟩ hbelow

/-! ## Any order -/

/-- Two files with places beside each other. -/
def Separate (fs : FileSystem) (cwd : Place) (root : Path) (file other : Text × Text) : Prop :=
  ∀ place below, locate fs cwd root file.1 = .ok place → locate fs cwd root other.1 = .ok below →
    Beside place below

instance : Std.Symm (Separate fs cwd root) where
  symm _ _ h place below hplace hbelow :=
    have hbeside := h below place hbelow hplace
    ⟨hbeside.not_below, hbeside.not_above⟩

/-- Compatible files whose places are distinct are separate. -/
theorem Compatible.separate {files : List (Text × Text)}
    (h : files.Pairwise (Compatible fs cwd root))
    (hdistinct : files.Pairwise fun file other =>
      ∀ place, locate fs cwd root file.1 = .ok place → locate fs cwd root other.1 ≠ .ok place) :
    files.Pairwise (Separate fs cwd root) := by
  refine (h.and hdistinct).imp ?_
  rintro file other ⟨hcompatible, hne⟩ place below hplace hbelow
  refine (hcompatible place below hplace hbelow).resolve_left ?_
  rintro rfl
  exact hne place hplace hbelow

/-- Of separate files only one has its place below another one's: that one itself. -/
theorem Separate.eq_of_le {files : List (Text × Text)}
    (h : files.Pairwise (Separate fs cwd root)) {file other : Text × Text} {place below : Place}
    (hfile : file ∈ files) (hother : other ∈ files)
    (hplace : locate fs cwd root file.1 = .ok place)
    (hbelow : locate fs cwd root other.1 = .ok below) (hle : place <+: below) : file = other := by
  by_contra hne
  exact (h.forall hfile hother hne place below hplace hbelow).not_above hle

namespace Laid

variable {files other : List (Text × Text)} {place : Place} {entry : Option Entry}

theorem of_perm (h : Laid fs cwd root encoding files place entry) (hperm : files.Perm other) :
    Laid fs cwd root encoding other place entry := by
  have hdeclared : ∀ below, Declared fs cwd root files below ↔ Declared fs cwd root other below := by
    unfold Declared
    simp only [hperm.mem_iff, implies_true]
  cases h with
  | file hmem hlocate hbytes => exact .file (hperm.mem_iff.mp hmem) hlocate hbytes
  | above hbelow hle hne => exact .above ((hdeclared _).mp hbelow) hle hne
  | rest hnot => exact .rest fun below hbelow => hnot below ((hdeclared below).mpr hbelow)

/-- **Separate files leave no choice** of what stands at a place. -/
theorem unique {entry' : Option Entry} (hseparate : files.Pairwise (Separate fs cwd root))
    (h : Laid fs cwd root encoding files place entry)
    (h' : Laid fs cwd root encoding files place entry') : entry = entry' := by
  have hclash : ∀ name content, (name, content) ∈ files → locate fs cwd root name = .ok place →
      ∀ below, Declared fs cwd root files below → place <+: below → place = below := by
    rintro name content hmem hlocate below ⟨other, text, hother, hbelow⟩ hle
    obtain ⟨rfl, rfl⟩ := Prod.mk.inj
      (Separate.eq_of_le hseparate hmem hother hlocate hbelow hle)
    exact Except.ok.inj (hlocate.symm.trans hbelow)
  cases h with
  | file hmem hlocate hbytes =>
      cases h' with
      | file hmem' hlocate' hbytes' =>
          obtain ⟨rfl, rfl⟩ := Prod.mk.inj
            (Separate.eq_of_le hseparate hmem hmem' hlocate hlocate' List.prefix_rfl)
          obtain ⟨found, hlookup, hencode⟩ := hbytes'
          rw [hbytes.eq_of_lookup hlookup hencode]
      | above hbelow hle hne => exact absurd (hclash _ _ hmem hlocate _ hbelow hle) hne
      | rest hnot => exact absurd List.prefix_rfl (hnot place ⟨_, _, hmem, hlocate⟩)
  | above hbelow hle hne =>
      cases h' with
      | file hmem hlocate hbytes => exact absurd (hclash _ _ hmem hlocate _ hbelow hle) hne
      | above => rfl
      | rest hnot => exact absurd hle (hnot _ hbelow)
  | rest hnot =>
      cases h' with
      | file hmem hlocate hbytes => exact absurd List.prefix_rfl (hnot place ⟨_, _, hmem, hlocate⟩)
      | above hbelow hle hne => exact absurd hle (hnot _ hbelow)
      | rest => rfl

end Laid

/-- **Order**: files with distinct places are written in one order if they are in
another one, and leave the same.  A file and another one below it are written in
no order. -/
theorem materialize_perm (hloop : fs.Loopless) (hbase : fs.Plain (fs.resolve cwd root))
    (encoding : Text) {files other : List (Text × Text)} (hperm : files.Perm other)
    (hdistinct : files.Pairwise fun file other =>
      ∀ place, locate fs cwd root file.1 = .ok place → locate fs cwd root other.1 ≠ .ok place) :
    let made := materialize cwd root encoding files fs
    let permuted := materialize cwd root encoding other fs
    ((∃ places, made.result = .ok places) ↔ ∃ places, permuted.result = .ok places) ∧
    ((∃ places, made.result = .ok places) →
      ∀ place, permuted.fs.entry? place = made.fs.entry? place) ∧
    ((∃ place below, Declared fs cwd root files place ∧ Declared fs cwd root files below ∧
        place <+: below ∧ place ≠ below) →
      (∀ places, made.result ≠ .ok places) ∧ ∀ places, permuted.result ≠ .ok places) := by
  intro made permuted
  have hmade := @materialize_ok_iff fs cwd root encoding hloop hbase files
  have hpermuted := @materialize_ok_iff fs cwd root encoding hloop hbase other
  have hiff : (∃ places, made.result = .ok places) ↔ ∃ places, permuted.result = .ok places := by
    rw [hmade, hpermuted, hperm.pairwise_iff Compatible.symm]
    simp only [hperm.mem_iff]
  refine ⟨hiff, fun h => ?same, fun h => ?conflict⟩
  case same =>
    intro place
    have hseparate := Compatible.separate (hmade.mp h).2 hdistinct
    obtain ⟨places, hplaces⟩ := h
    obtain ⟨others, hothers⟩ := hiff.mp ⟨places, hplaces⟩
    have hlaid := (laid_materialize hloop hbase hothers place).of_perm hperm.symm
    exact hlaid.unique hseparate (laid_materialize hloop hbase hplaces place)
  case conflict =>
    have hnone : ¬ ∃ places, made.result = .ok places := by
      intro hok
      have hseparate := Compatible.separate (hmade.mp hok).2 hdistinct
      obtain ⟨place, below, ⟨name, content, hmem, hplace⟩, ⟨lower, text, hlower, hbelow⟩, hle, hne⟩ := h
      obtain ⟨rfl, rfl⟩ := Prod.mk.inj
        (Separate.eq_of_le hseparate hmem hlower hplace hbelow hle)
      exact hne (Except.ok.inj (hplace.symm.trans hbelow))
    exact ⟨fun places hplaces => hnone ⟨places, hplaces⟩,
      fun places hplaces => hnone (hiff.mpr ⟨places, hplaces⟩)⟩

/-- Two files in a directory that is missing, and a file with another one below it. -/
theorem materialize_perm_nested :
    let fs : FileSystem := { entries := [(["r".toList], .directory)] }
    let root := Path.ofText "/r".toList
    let files := [("d/a".toList, "1".toList), ("d/b".toList, "2".toList)]
    let clashing := [("a".toList, "1".toList), ("a/b".toList, "2".toList)]
    let writing := fun files => materialize [] root "utf-8".toList files fs
    (∃ places, (writing files.reverse).result = .ok places) ∧
    (∀ place, (writing files.reverse).fs.entry? place = (writing files).fs.entry? place) ∧
    (∀ places, (writing clashing).result ≠ .ok places) ∧
    ∀ places, (writing clashing.reverse).result ≠ .ok places := by
  intro fs root files clashing writing
  have hvalid : fs.Valid := Valid.of_keys (by decide +kernel)
  have hloop : fs.Loopless := Loopless.of_keys 0 (by decide +kernel)
  have hbase : fs.Plain (fs.resolve [] root) := hvalid.plain (by decide +kernel)
  have hlookup : Encoding.lookup "utf-8".toList = .ok .utf8 := by decide +kernel
  have hplaces : (writing files).result =
      .ok [["r".toList, "d".toList, "a".toList], ["r".toList, "d".toList, "b".toList]] := by
    decide +kernel
  have hbeside : locate fs [] root "d/a".toList ≠ locate fs [] root "d/b".toList := by
    decide +kernel
  have habove : locate fs [] root "a".toList = .ok ["r".toList, "a".toList] := by decide +kernel
  have hbelow : locate fs [] root "a/b".toList = .ok ["r".toList, "a".toList, "b".toList] := by
    decide +kernel
  have hclash : locate fs [] root "a".toList ≠ locate fs [] root "a/b".toList := by
    rw [habove, hbelow]
    decide
  obtain ⟨hiff, hsame, -⟩ := materialize_perm hloop hbase "utf-8".toList
    (List.reverse_perm files).symm
    (List.pairwise_pair.mpr fun _ h h' => hbeside (h.trans h'.symm))
  obtain ⟨-, -, hconflict⟩ := materialize_perm hloop hbase "utf-8".toList
    (List.reverse_perm clashing).symm
    (List.pairwise_pair.mpr fun _ h h' => hclash (h.trans h'.symm))
  have hdeclared : ∃ place below, Declared fs [] root clashing place ∧
      Declared fs [] root clashing below ∧ place <+: below ∧ place ≠ below :=
    ⟨_, _, ⟨_, _, List.mem_cons_self, habove⟩,
      ⟨_, _, List.mem_cons_of_mem _ List.mem_cons_self, hbelow⟩, ⟨["b".toList], rfl⟩, by decide⟩
  exact ⟨hiff.mp ⟨_, hplaces⟩, hsame ⟨_, hplaces⟩, hconflict hdeclared⟩

end SchemeCheck.Fixture
