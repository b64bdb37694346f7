import SchemeCheck.Proofs.FileSystem.Agreement
import SchemeCheck.Proofs.Fixture.Contents

/-!
# SchemeCheck.Proofs.Fixture.Agreement

Writing the files of a plan where the fixture root looks the same.  Where two file
systems agree on every place above and below the root, the files fail to be
written with the same failure or are written at the same places, and afterwards
the root looks the same again (`agree_materialize`).
-/

namespace SchemeCheck.Fixture

open FileSystem (Agree Covers Loopless Plain)

variable {domain : Place → Prop} {fs other : FileSystem} {cwd : Place} {root : Path}

/-- **Step**: a file is written alike. -/
theorem agree_writeFile (hloop : fs.Loopless) (hbase : fs.Plain (fs.resolve cwd root))
    (hway : ∀ place, fs.resolve cwd root <+: place → Covers domain place)
    (h : Agree domain fs other) (encoding name content : Text) :
    (writeFile cwd root encoding name content other).result =
        (writeFile cwd root encoding name content fs).result ∧
      Agree domain (writeFile cwd root encoding name content fs).fs
        (writeFile cwd root encoding name content other).fs := by
  unfold writeFile
  rw [locate_eq_of_link?_eq hloop h.link?]
  cases hlocate : locate fs cwd root name with
  | error fault => exact ⟨rfl, h⟩
  | ok place =>
      have hplain := plain_of_locate hloop hbase hlocate
      have hcovers := hway place (locate_ok hlocate).2.1
      have hmade := FileSystem.made_makeDirectories hplain.dropLast
      obtain ⟨hsame, hagree⟩ := FileSystem.agree_makeDirectories h hplain.dropLast
        (hcovers.above (List.dropLast_prefix place))
      dsimp only
      revert hsame hagree hmade
      generalize fs.makeDirectories place.dropLast = made
      generalize other.makeDirectories place.dropLast = madeOther
      obtain ⟨made, failure?⟩ := made
      obtain ⟨madeOther, failureOther?⟩ := madeOther
      rintro hmade (rfl : failureOther? = failure?) hagree
      cases failureOther? with
      | some failure => exact ⟨rfl, hagree⟩
      | none =>
          dsimp only
          cases Encoding.lookup encoding with
          | error cause => exact ⟨rfl, hagree⟩
          | ok encoding =>
              dsimp only
              cases encoding.encode content with
              | error cause => exact ⟨rfl, hagree⟩
              | ok bytes =>
                  have hwrite := FileSystem.alike_write hagree
                    (hplain.of_link?_eq hmade.link?_eq) hcovers bytes
                  dsimp only
                  revert hwrite
                  generalize made.write place bytes = wrote
                  generalize madeOther.write place bytes = wroteOther
                  rintro (errno | hwrote)
                  · exact ⟨rfl, hagree⟩
                  · exact ⟨rfl, hwrote⟩

/-- **Run**: so are all files, up to the first that fails. -/
theorem agree_materialize (hloop : fs.Loopless) (hbase : fs.Plain (fs.resolve cwd root))
    (hway : ∀ place, fs.resolve cwd root <+: place → Covers domain place)
    (h : Agree domain fs other) (encoding : Text) (files : List (Text × Text)) :
    (materialize cwd root encoding files other).result =
        (materialize cwd root encoding files fs).result ∧
      Agree domain (materialize cwd root encoding files fs).fs
        (materialize cwd root encoding files other).fs := by
  induction files generalizing fs other with
  | nil => exact ⟨rfl, h⟩
  | cons file rest ih =>
      obtain ⟨name, content⟩ := file
      have hlink := link?_writeFile hloop hbase encoding name content
      have hplain := plain_root_of_link?_eq hloop hbase hlink
      have hsame := hloop.resolve_eq_of_link?_eq hlink cwd root
      obtain ⟨hresult, hfirst⟩ := agree_writeFile hloop hbase hway h encoding name content
      unfold materialize
      dsimp only
      rw [hresult]
      cases (writeFile cwd root encoding name content fs).result with
      | error failure => exact ⟨rfl, hfirst⟩
      | ok place =>
          obtain ⟨hothers, hagree⟩ := ih (hloop.of_link?_eq hlink) hplain
            (fun place hbelow => hway place (hsame ▸ hbelow)) hfirst
          exact ⟨by simp only [hothers], hagree⟩

end SchemeCheck.Fixture
