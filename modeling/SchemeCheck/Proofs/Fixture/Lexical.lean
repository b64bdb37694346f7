import Mathlib.Tactic.Tauto
import SchemeCheck.Fixture
import SchemeCheck.Proofs.FileSystem.Links
import SchemeCheck.Proofs.FileSystem.Path

/-!
# SchemeCheck.Proofs.Fixture.Lexical

Where a declared name leads when there are no links.  Then a path means what is
written: `Place.climb` reads it component by component, going down at a name, up at
`..`, and staying at an empty component and at `.`.  Resolution looks at every
entry on the way and comes to the same place (`tryResolve_eq_climb`), unless a null
character is in the way; so the place of a name is a question of its components,
and what exists has no say in it: `locate_lexical`.
-/

namespace SchemeCheck

/-! ## Components -/

/-- The components of a written path. -/
def Text.components (text : Text) : List Text :=
  Text.splitOn '/' text

/-- The place that components lead to from the root. -/
def Place.ofComponents (components : List Text) : Place :=
  components.foldl Place.climb []

/-- The components of a name that is seen from a written directory. -/
def Text.componentsFrom (location name : Text) : List Text :=
  if name.isRooted then name.components else location.components ++ name.components

namespace Path

/-- The names of a path are the components at which it does not stay. -/
theorem foldl_climb_namesOf (text : Text) (here : Place) :
    (namesOf text).foldl Place.climb here = text.components.foldl Place.climb here := by
  unfold namesOf Text.components
  rw [List.foldl_filter]
  congr 1
  funext here component
  by_cases hstays : component = [] ∨ component = ['.']
  · rcases hstays with rfl | rfl <;> simp [Place.climb]
  · obtain ⟨hempty, hdot⟩ := not_or.mp hstays
    simp [hempty, hdot]

end Path

/-! ## Resolution -/

namespace FileSystem

variable {fs : FileSystem}

/-- No link stands anywhere. -/
def Linkless (fs : FileSystem) : Prop :=
  ∀ place, fs.link? place = none

/-- It is enough to look at the entries of the table. -/
theorem Linkless.of_keys (h : ∀ place ∈ Table.keys fs.entries, fs.link? place = none) :
    fs.Linkless := by
  intro place
  by_contra hlink
  obtain ⟨target, htarget⟩ := Option.ne_none_iff_exists'.mp hlink
  exact hlink (h place (mem_keys_of_link? htarget))

/-- Without links components are told by themselves. -/
theorem resolveFrom_eq_climb (h : fs.Linkless) (follow : Place → Text → Except Place Place)
    (here : Place) (components : List Text) :
    fs.resolveFrom follow here components = .ok (components.foldl Place.climb here) := by
  induction components generalizing here with
  | nil => rfl
  | cons component rest ih =>
      unfold resolveFrom
      rw [List.foldl_cons]
      split
      · exact ih _
      · next hname =>
        obtain ⟨hempty, hdot, hup⟩ := not_or.mp hname |>.imp_right not_or.mp
        have hclimb : here.climb component = here ++ [component] := by
          simp [Place.climb, hempty, hdot, hup]
        rw [hclimb]
        split
        · next target hentry =>
          have hlink := h (here ++ [component])
          rw [link?_eq_some_iff.mpr hentry] at hlink
          cases hlink
        · exact ih _

/-- **Without links a path leads where its components do**, past what exists and
what does not. -/
theorem tryResolve_eq_climb (h : fs.Linkless) (cwd : Place) (text : Text) :
    fs.tryResolve cwd (Path.ofText text) =
      if '\x00' ∈ text then .error .null
      else .ok (text.components.foldl Place.climb (if text.isRooted then [] else cwd)) := by
  have hnull := Path.any_contains_namesOf (c := '\x00') (by decide) (by decide) text
  unfold tryResolve trace
  rw [resolveFrom_eq_climb h, Path.isAbsolute_ofText]
  simp only [Path.ofText, hnull, Path.foldl_climb_namesOf]

end FileSystem

namespace Fixture

variable {fs : FileSystem} {location : Text}

/-- The place of a name is what its components lead to, if that lies strictly
below what those of the root lead to. -/
theorem locate_eq_ofComponents (h : fs.Linkless) (cwd : Place) (hrooted : location.isRooted = true)
    (name : Text) :
    locate fs cwd (Path.ofText location) name =
      let base := Place.ofComponents location.components
      let place := Place.ofComponents (location.componentsFrom name)
      if name = [] then .error (.fault .emptyName)
      else if '\x00' ∈ location ∨ '\x00' ∈ name then .error (.unresolved .null)
      else if base <+: place ∧ place ≠ base then .ok place
      else .error (.fault (.outside name (Path.ofText location))) := by
  have hbase : fs.tryResolve cwd (Path.ofText location) =
      if '\x00' ∈ location then .error .null
      else .ok (Place.ofComponents location.components) := by
    rw [FileSystem.tryResolve_eq_climb h, if_pos hrooted]
    rfl
  have hplace : fs.tryResolve (Place.ofComponents location.components) (Path.ofText name) =
      if '\x00' ∈ name then .error .null
      else .ok (Place.ofComponents (location.componentsFrom name)) := by
    rw [FileSystem.tryResolve_eq_climb h]
    congr 2
    unfold Text.componentsFrom Place.ofComponents
    split
    · rfl
    · rw [List.foldl_append]
  unfold locate
  rw [hbase]
  by_cases hroot : '\x00' ∈ location
  · simp [hroot]
  · by_cases hname : '\x00' ∈ name
    · simp [hroot, hplace, hname]
    · simp only [hroot, hplace, hname, List.isEmpty_iff, Bool.and_eq_true,
        List.isPrefixOf_iff_prefix, decide_eq_true_eq, if_false, or_self]

/-- **Names are read as they are written**: without links a name has the place
that its components lead to from the root, if it is not empty, no null character
is in the way, and that place lies strictly below the root; every other name is
refused.  What exists has no say. -/
theorem locate_lexical (h : fs.Linkless) (cwd : Place) (hrooted : location.isRooted = true)
    (name : Text) :
    let root := Path.ofText location
    let base := Place.ofComponents location.components
    let place := Place.ofComponents (location.componentsFrom name)
    let null := '\x00' ∈ location ∨ '\x00' ∈ name
    (∀ found, locate fs cwd root name = .ok found ↔
      found = place ∧ name ≠ [] ∧ ¬ null ∧ base <+: place ∧ place ≠ base) ∧
    (∀ failure, locate fs cwd root name = .error failure ↔
      (name = [] ∧ failure = .fault .emptyName) ∨
      (name ≠ [] ∧ null ∧ failure = .unresolved .null) ∨
      (name ≠ [] ∧ ¬ null ∧ ¬ (base <+: place ∧ place ≠ base) ∧
        failure = .fault (.outside name root))) ∧
    ∀ (other : FileSystem) (elsewhere : Place), other.Linkless →
      locate other elsewhere root name = locate fs cwd root name := by
  intro root base place null
  have hlocate : locate fs cwd root name =
      if name = [] then .error (.fault .emptyName)
      else if null then .error (.unresolved .null)
      else if base <+: place ∧ place ≠ base then .ok place
      else .error (.fault (.outside name root)) := locate_eq_ofComponents h cwd hrooted name
  have hsame : ∀ (other : FileSystem) (elsewhere : Place), other.Linkless →
      locate other elsewhere root name = locate fs cwd root name := fun other elsewhere hother =>
    (locate_eq_ofComponents hother elsewhere hrooted name).trans hlocate.symm
  refine ⟨fun found => ?found, fun failure => ?failure, hsame⟩
  case found =>
    rw [hlocate]
    split_ifs with hempty hnull hbelow
    · simp [hempty]
    · simp [hnull]
    · rw [Except.ok.injEq, eq_comm]
      tauto
    · simp [hbelow]
  case failure =>
    rw [hlocate]
    split_ifs with hempty hnull hbelow
    · rw [Except.error.injEq, eq_comm]
      tauto
    · rw [Except.error.injEq, eq_comm]
      tauto
    · simp [hempty, hnull, hbelow]
    · rw [Except.error.injEq, eq_comm]
      tauto

/-- Names that leave the root: one comes back, one past a file that exists, and
two end at the root or beside it.  The last one is no name of a file. -/
theorem locate_lexical_climbing :
    let fs : FileSystem := { entries := [(["t".toList], .directory),
      (["t".toList, "r".toList], .directory), (["t".toList, "r".toList, "f".toList], .file []),
      (["t".toList, "r2".toList], .directory)] }
    let root := Path.ofText "/t/./r//".toList
    locate fs [] root "../r/x/../a/".toList = .ok ["t".toList, "r".toList, "a".toList] ∧
    locate fs [] root "f/../../../t/r/b".toList = .ok ["t".toList, "r".toList, "b".toList] ∧
    locate fs [] root "a/..".toList = .error (.fault (.outside "a/..".toList root)) ∧
    locate fs [] root "/t/r2/a".toList = .error (.fault (.outside "/t/r2/a".toList root)) ∧
    locate fs [] root "a\x00/../b".toList = .error (.unresolved .null) := by
  intro fs root
  have hlinks : fs.Linkless := FileSystem.Linkless.of_keys (by decide +kernel)
  have hlexical := locate_lexical hlinks [] (by decide : Text.isRooted "/t/./r//".toList = true)
  refine ⟨?_, ?_, ?_, ?_, ?_⟩
  · exact ((hlexical "../r/x/../a/".toList).1 _).mpr (by decide +kernel)
  · exact ((hlexical "f/../../../t/r/b".toList).1 _).mpr (by decide +kernel)
  · exact ((hlexical "a/..".toList).2.1 _).mpr (.inr (.inr (by decide +kernel)))
  · exact ((hlexical "/t/r2/a".toList).2.1 _).mpr (.inr (.inr (by decide +kernel)))
  · exact ((hlexical "a\x00/../b".toList).2.1 _).mpr (.inr (.inl (by decide +kernel)))

end Fixture

end SchemeCheck
