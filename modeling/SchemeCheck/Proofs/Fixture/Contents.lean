import SchemeCheck.Proofs.Fixture.Confinement

/-!
# SchemeCheck.Proofs.Fixture.Contents

What stands at the places of the declared files when all of them are written.
A file that is written holds its content (`writeFile_ok`), and the files after
it leave it alone unless one of them has the same place
(`entry?_materialize_of_not_declared`).  Names may differ and still lead to one
place, as `a` and `./a` do, and then the last file wins; so what holds of a run
is that every place holds the content of the last file that leads to it:
`materialize_contents`.
-/

namespace SchemeCheck.Fixture

open FileSystem (Loopless Plain Valid Written)

variable {fs : FileSystem} {cwd : Place} {root : Path} {encoding : Text}

/-- The bytes of a content in the encoding of the given name. -/
def Encoded (encoding content : Text) (bytes : List UInt8) : Prop :=
  ∃ found, Encoding.lookup encoding = .ok found ∧ found.encode content = .ok bytes

theorem Encoded.eq_of_lookup {content : Text} {bytes other : List UInt8} {found : Encoding}
    (h : Encoded encoding content bytes) (hlookup : Encoding.lookup encoding = .ok found)
    (hother : found.encode content = .ok other) : bytes = other := by
  obtain ⟨same, hsame, hbytes⟩ := h
  obtain rfl := Except.ok.inj (hsame.symm.trans hlookup)
  exact Except.ok.inj (hbytes.symm.trans hother)

/-! ## One file -/

/-- All that has to succeed for a file to be written. -/
theorem writeFile_inv {name content : Text} {place : Place}
    (h : (writeFile cwd root encoding name content fs).result = .ok place) :
    ∃ made bytes, locate fs cwd root name = .ok place ∧
      fs.makeDirectories place.dropLast = (made, none) ∧ Encoded encoding content bytes ∧
      made.write place bytes = .ok (writeFile cwd root encoding name content fs).fs := by
  unfold writeFile at h ⊢
  cases hlocate : locate fs cwd root name with
  | error fault => simp only [hlocate, reduceCtorEq] at h
  | ok found =>
      simp only [hlocate] at h ⊢
      split at h
      · cases h
      · next made hmake =>
        split at h
        · cases h
        · next codec hlookup =>
          split at h
          · cases h
          · next bytes hencode =>
            split at h
            · cases h
            · next wrote hwrite =>
              obtain rfl := Except.ok.inj h
              simp only [hmake]
              exact ⟨made, bytes, trivial, rfl, ⟨codec, hlookup, hencode⟩, hwrite⟩

/-- A file that is written stands at the place of its name and holds its content. -/
theorem writeFile_ok (hloop : fs.Loopless) (hbase : fs.Plain (fs.resolve cwd root))
    {name content : Text} {place : Place}
    (h : (writeFile cwd root encoding name content fs).result = .ok place) :
    locate fs cwd root name = .ok place ∧ ∃ bytes, Encoded encoding content bytes ∧
      (writeFile cwd root encoding name content fs).fs.entry? place = some (.file bytes) := by
  obtain ⟨made, bytes, hlocate, hmake, hbytes, hwrite⟩ := writeFile_inv h
  have hplain : fs.Plain place := plain_of_locate hloop hbase hlocate
  have hmade := FileSystem.written_makeDirectories hplain (List.dropLast_prefix place)
    (dropLast_ne_of_locate hlocate)
  rw [hmake] at hmade
  obtain ⟨-, hwrote⟩ := FileSystem.write_eq (hplain.of_written hplain hmade) hwrite
  refine ⟨hlocate, bytes, hbytes, ?_⟩
  rw [hwrote, FileSystem.entry?_put (ne_nil_of_locate hlocate), if_pos rfl]

/-- A file puts no link anywhere and takes none away. -/
theorem link?_writeFile (hloop : fs.Loopless) (hbase : fs.Plain (fs.resolve cwd root))
    (encoding name content : Text) :
    (writeFile cwd root encoding name content fs).fs.link? = fs.link? :=
  (written_writeFile hloop hbase encoding name content).link?_eq fun place hlocate =>
    (plain_of_locate hloop hbase hlocate).link? place List.prefix_rfl

/-- With the same links the root stays where it is, and no link comes on its way. -/
theorem plain_root_of_link?_eq {other : FileSystem} (hloop : fs.Loopless)
    (hbase : fs.Plain (fs.resolve cwd root)) (hlink : other.link? = fs.link?) :
    other.Plain (other.resolve cwd root) := by
  rw [hloop.resolve_eq_of_link?_eq hlink]
  exact hbase.of_link?_eq hlink

/-! ## All files -/

/-- A run that comes to its end has written the first file, and the others after it. -/
theorem materialize_cons_ok {name content : Text} {rest : List (Text × Text)}
    {places : List Place}
    (h : (materialize cwd root encoding ((name, content) :: rest) fs).result = .ok places) :
    ∃ first place others, first = writeFile cwd root encoding name content fs ∧
      first.result = .ok place ∧
      (materialize cwd root encoding rest first.fs).result = .ok others ∧
      places = place :: others ∧
      (materialize cwd root encoding ((name, content) :: rest) fs).fs =
        (materialize cwd root encoding rest first.fs).fs := by
  refine ⟨writeFile cwd root encoding name content fs, ?_⟩
  simp only [materialize] at h ⊢
  cases hfirst : (writeFile cwd root encoding name content fs).result with
  | error failure => simp only [hfirst, reduceCtorEq] at h
  | ok place =>
      simp only [hfirst] at h ⊢
      cases hrest : (materialize cwd root encoding rest
          (writeFile cwd root encoding name content fs).fs).result with
      | error failure => rw [hrest] at h; cases h
      | ok others =>
          rw [hrest] at h
          exact ⟨place, others, trivial, rfl, rfl, (Except.ok.inj h).symm, trivial⟩

/-- The answer is the place of each file, in the order of the files. -/
theorem places_materialize (hloop : fs.Loopless) (hbase : fs.Plain (fs.resolve cwd root))
    {files : List (Text × Text)} {places : List Place}
    (h : (materialize cwd root encoding files fs).result = .ok places) :
    files.map (fun file => locate fs cwd root file.1) = places.map .ok := by
  induction files generalizing fs places with
  | nil =>
      obtain rfl := Except.ok.inj h
      rfl
  | cons file rest ih =>
      obtain ⟨name, content⟩ := file
      obtain ⟨first, place, others, rfl, hfirst, hrest, rfl, -⟩ := materialize_cons_ok h
      have hlink := link?_writeFile hloop hbase encoding name content
      have hothers := ih (hloop.of_link?_eq hlink) (plain_root_of_link?_eq hloop hbase hlink) hrest
      simp only [locate_eq_of_link?_eq hloop hlink] at hothers
      rw [List.map_cons, List.map_cons, hothers, (writeFile_ok hloop hbase hfirst).1]

/-- A file keeps what it holds if none of the files that are written has its place. -/
theorem entry?_materialize_of_not_declared (hloop : fs.Loopless)
    (hbase : fs.Plain (fs.resolve cwd root)) {files : List (Text × Text)} {place : Place}
    {bytes : List UInt8} (hfile : fs.entry? place = some (.file bytes))
    (hnone : ¬ Declared fs cwd root files place) :
    (materialize cwd root encoding files fs).fs.entry? place = some (.file bytes) := by
  obtain heq | ⟨habsent, -⟩ | ⟨hdeclared, -⟩ :=
    written_materialize hloop hbase encoding files place
  · rw [heq, hfile]
  · rw [hfile] at habsent
    cases habsent
  · exact absurd hdeclared hnone

/-- **Run**: a file holds its content unless a later one has the same place. -/
theorem entry?_materialize_append (hloop : fs.Loopless)
    (hbase : fs.Plain (fs.resolve cwd root)) {before later : List (Text × Text)}
    {name content : Text} {places : List Place}
    (h : (materialize cwd root encoding (before ++ (name, content) :: later) fs).result =
      .ok places)
    (hlast : ∀ file ∈ later, locate fs cwd root file.1 ≠ locate fs cwd root name) :
    ∃ place bytes, locate fs cwd root name = .ok place ∧ Encoded encoding content bytes ∧
      (materialize cwd root encoding (before ++ (name, content) :: later) fs).fs.entry? place =
        some (.file bytes) := by
  induction before generalizing fs places with
  | nil =>
      obtain ⟨first, place, others, rfl, hfirst, -, -, hfs⟩ := materialize_cons_ok h
      obtain ⟨hlocate, bytes, hbytes, hentry⟩ := writeFile_ok hloop hbase hfirst
      have hlink := link?_writeFile hloop hbase encoding name content
      refine ⟨place, bytes, hlocate, hbytes, ?_⟩
      rw [List.nil_append, hfs]
      refine entry?_materialize_of_not_declared (hloop.of_link?_eq hlink)
        (plain_root_of_link?_eq hloop hbase hlink) hentry ?_
      rintro ⟨other, text, hmem, hother⟩
      rw [locate_eq_of_link?_eq hloop hlink] at hother
      exact hlast (other, text) hmem (hother.trans hlocate.symm)
  | cons file rest ih =>
      obtain ⟨other, text⟩ := file
      rw [List.cons_append] at h ⊢
      obtain ⟨first, place, others, rfl, -, hrest, -, hfs⟩ := materialize_cons_ok h
      have hlink := link?_writeFile hloop hbase encoding other text
      have hsame : ∀ name, locate _ cwd root name = locate fs cwd root name :=
        locate_eq_of_link?_eq hloop hlink
      rw [hfs]
      simp only [← hsame] at hlast ⊢
      exact ih (hloop.of_link?_eq hlink) (plain_root_of_link?_eq hloop hbase hlink) hrest hlast

/-- **Contents**: if every file is written, the answer is the place of each one in
the order of the files, and a file holds its content unless a later one has the
same place.  Where a name leads is the same before and after. -/
theorem materialize_contents (hvalid : fs.Valid) (hloop : fs.Loopless)
    (hroot : fs.isDirectory (fs.resolve cwd root) = true) {files : List (Text × Text)}
    {places : List Place}
    (h : (materialize cwd root encoding files fs).result = .ok places) :
    let after := (materialize cwd root encoding files fs).fs
    (∀ name, locate after cwd root name = locate fs cwd root name) ∧
    files.map (fun file => locate fs cwd root file.1) = places.map .ok ∧
    ∀ before name content later, files = before ++ (name, content) :: later →
      (∀ file ∈ later, locate fs cwd root file.1 ≠ locate fs cwd root name) →
      ∃ place bytes, locate fs cwd root name = .ok place ∧ Encoded encoding content bytes ∧
        after.entry? place = some (.file bytes) := by
  intro after
  have hbase := hvalid.plain hroot
  have hlink : after.link? = fs.link? :=
    (written_materialize hloop hbase encoding files).link?_eq
      fun place ⟨_, _, _, hlocate⟩ =>
        (plain_of_locate hloop hbase hlocate).link? place List.prefix_rfl
  refine ⟨locate_eq_of_link?_eq hloop hlink, places_materialize hloop hbase h, ?_⟩
  rintro before name content later rfl hlast
  exact entry?_materialize_append hloop hbase h hlast

/-- Two files below a directory that is missing, of which the later one has the
place of the earlier one under another name, and one beside them. -/
theorem materialize_contents_aliased :
    let fs : FileSystem := { entries := [(["r".toList], .directory)] }
    let root := Path.ofText "/r".toList
    let files := [("d/a".toList, "1".toList), ("b".toList, "é".toList),
      ("d/../d//./a".toList, "2".toList)]
    let place := ["r".toList, "d".toList, "a".toList]
    let after := (materialize [] root "latin-1".toList files fs).fs
    (materialize [] root "latin-1".toList files fs).result =
      .ok [place, ["r".toList, "b".toList], place] ∧
    after.entry? place = some (.file [50]) ∧
    after.entry? ["r".toList, "b".toList] = some (.file [233]) := by
  intro fs root files place after
  have hvalid : fs.Valid := Valid.of_keys (by decide +kernel)
  have hloop : fs.Loopless := Loopless.of_keys 0 (by decide +kernel)
  have hroot : fs.isDirectory (fs.resolve [] root) = true := by decide +kernel
  have hlookup : Encoding.lookup "latin-1".toList = .ok .latin1 := by decide +kernel
  have hplaces : (materialize [] root "latin-1".toList files fs).result =
      .ok [place, ["r".toList, "b".toList], place] := by
    decide +kernel
  have hlast : locate fs [] root "d/../d//./a".toList = .ok place := by decide +kernel
  have hbeside : locate fs [] root "b".toList = .ok ["r".toList, "b".toList] := by decide +kernel
  obtain ⟨-, -, hcontents⟩ := materialize_contents hvalid hloop hroot hplaces
  refine ⟨hplaces, ?_, ?_⟩
  · obtain ⟨found, bytes, hfound, hbytes, hentry⟩ :=
      hcontents (files.take 2) "d/../d//./a".toList "2".toList [] rfl (by simp)
    obtain rfl := Except.ok.inj (hfound.symm.trans hlast)
    obtain rfl : bytes = [50] := hbytes.eq_of_lookup hlookup (by decide +kernel)
    exact hentry
  · obtain ⟨found, bytes, hfound, hbytes, hentry⟩ :=
      hcontents (files.take 1) "b".toList "é".toList (files.drop 2) rfl
        (by decide +kernel)
    obtain rfl := Except.ok.inj (hfound.symm.trans hbeside)
    obtain rfl : bytes = [233] := hbytes.eq_of_lookup hlookup (by decide +kernel)
    exact hentry

/-- Files with different names do not always keep their own contents: `a` and `./a`
are one place. -/
theorem not_materialize_own_contents :
    ¬ ∀ (fs : FileSystem) (cwd : Place) (root : Path) (encoding : Text)
      (files : List (Text × Text)) (places : List Place),
      fs.Valid → fs.Loopless → fs.isDirectory (fs.resolve cwd root) = true →
      fs.Bare (fs.resolve cwd root) → (Table.keys files).Nodup →
      (materialize cwd root encoding files fs).result = .ok places →
      ∀ file ∈ files, ∃ place bytes, locate fs cwd root file.1 = .ok place ∧
        Encoded encoding file.2 bytes ∧
        (materialize cwd root encoding files fs).fs.entry? place = some (.file bytes) := by
  intro h
  let fs : FileSystem := { entries := [(["r".toList], .directory)] }
  let root := Path.ofText "/r".toList
  let files := [("a".toList, "x".toList), ("./a".toList, "y".toList)]
  let place := ["r".toList, "a".toList]
  have hvalid : fs.Valid := Valid.of_keys (by decide +kernel)
  have hloop : fs.Loopless := Loopless.of_keys 0 (by decide +kernel)
  have hbare : fs.Bare (fs.resolve [] root) := FileSystem.Bare.of_keys (by decide +kernel)
  have hlookup : Encoding.lookup "utf-8".toList = .ok .utf8 := by decide +kernel
  have hplaces : (materialize [] root "utf-8".toList files fs).result = .ok [place, place] := by
    decide +kernel
  have hentry : (materialize [] root "utf-8".toList files fs).fs.entry? place =
      some (.file [121]) := by
    decide +kernel
  obtain ⟨found, bytes, hfound, hbytes, hown⟩ := h fs [] root "utf-8".toList files [place, place]
    hvalid hloop (by decide +kernel) hbare (by decide +kernel) hplaces _ List.mem_cons_self
  obtain rfl := Except.ok.inj (hfound.symm.trans (by decide +kernel : _ = Except.ok place))
  obtain rfl : bytes = [120] := hbytes.eq_of_lookup hlookup (by decide +kernel)
  rw [hentry] at hown
  cases hown

end SchemeCheck.Fixture
