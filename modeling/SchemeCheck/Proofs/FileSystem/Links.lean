import Mathlib.Data.List.Basic
import Mathlib.Order.Monotone.Basic
import SchemeCheck.FileSystem.Basic
import SchemeCheck.Proofs.Table

/-!
# SchemeCheck.Proofs.FileSystem.Links

Paths through links.  `follow?` is a walk that follows links in links up to a
depth, and has no answer past it: it is monotone in the depth (`follow?_mono`), and
it looks at links only.

In a file system without link loops every link can be followed at some depth
(`Loopless`).  How many can be followed grows with the depth until it stays as
it is, so a depth of as many levels as there are entries is enough for all of
them (`Loopless.exists_follow?`).

Resolution keeps the links that it is following instead of a depth.  Where the walk
has an answer, the resolution has the same one (`trace_eq`): a link is met only on
links that need a greater depth, and so never on itself (`followLink_eq`).  Without
link loops that holds of every path (`Loopless.follow?_resolve`), and places are the
same in two file systems with the same links (`Loopless.resolve_eq_of_link?_eq`).

A place that a path leads to has no link on the way (`Loopless.plain_resolve`).
-/

namespace SchemeCheck.FileSystem

variable {fs : FileSystem}

/-! ## Walking with a bound -/

/-- Where the link at a place leads, if a link stands there. -/
def link? (fs : FileSystem) (place : Place) : Option Text :=
  match fs.entry? place with
  | some (.link target) => some target
  | _ => none

/-- Where a path starts that is seen from `here`. -/
def originOf (here : Place) (path : Path) : Place :=
  if path.isAbsolute then [] else here

/-- One step of a path, where `follow` says where a link leads. -/
def step? (fs : FileSystem) (follow : Place → Path → Option Place) (here : Place) (name : Text) :
    Option Place :=
  if name = [] ∨ name = ['.'] ∨ name = ['.', '.'] then some (here.climb name)
  else
    match fs.link? (here ++ [name]) with
    | some target => follow here (Path.ofText target)
    | none => some (here ++ [name])

/-- Where a path leads, if links in links are nested less than `depth` deep. -/
def follow? (fs : FileSystem) : Nat → Place → Path → Option Place
  | 0, _, _ => none
  | depth + 1, here, path =>
    path.names.foldlM (fs.step? (fs.follow? depth)) (originOf here path)

@[simp] theorem link?_nil (fs : FileSystem) : fs.link? [] = none := rfl

theorem link?_eq_some_iff {place : Place} {target : Text} :
    fs.link? place = some target ↔ fs.entry? place = some (.link target) := by
  unfold link?
  split <;> simp_all

/-- What holds of the links on the way holds of the way: `g` follows at least
the links that `f` follows. -/
theorem foldlM_step?_mono {f g : Place → Path → Option Place}
    (h : ∀ place target, fs.link? place = some target → ∀ there,
      f place.dropLast (Path.ofText target) = some there →
      g place.dropLast (Path.ofText target) = some there)
    {names : List Text} {here there : Place}
    (hf : names.foldlM (fs.step? f) here = some there) :
    names.foldlM (fs.step? g) here = some there := by
  induction names generalizing here with
  | nil => exact hf
  | cons name rest ih =>
      rw [List.foldlM_cons] at hf ⊢
      obtain ⟨next, hstep, hrest⟩ := Option.bind_eq_some_iff.mp hf
      refine Option.bind_eq_some_iff.mpr ⟨next, ?_, ih hrest⟩
      unfold step? at hstep ⊢
      split at hstep
      · next hup => rw [if_pos hup]; exact hstep
      · next hup =>
        rw [if_neg hup]
        cases hlink : fs.link? (here ++ [name]) with
        | none => rw [hlink] at hstep; exact hstep
        | some target =>
            have hlinked := h (here ++ [name]) target hlink next
            rw [List.dropLast_concat] at hlinked
            rw [hlink] at hstep
            exact hlinked hstep

theorem follow?_succ {depth : Nat} {here there : Place} {path : Path}
    (h : fs.follow? depth here path = some there) :
    fs.follow? (depth + 1) here path = some there := by
  induction depth generalizing here path there with
  | zero => cases h
  | succ depth ih => exact foldlM_step?_mono (fun _ _ _ _ hf => ih hf) h

/-- A greater depth does not change the answer. -/
theorem follow?_mono {depth more : Nat} (hle : depth ≤ more) {here there : Place} {path : Path}
    (h : fs.follow? depth here path = some there) : fs.follow? more here path = some there := by
  induction hle with
  | refl => exact h
  | step _ ih => exact follow?_succ ih

/-- At any two depths there is one answer. -/
theorem follow?_unique {depth other : Nat} {here there elsewhere : Place} {path : Path}
    (h : fs.follow? depth here path = some there)
    (h' : fs.follow? other here path = some elsewhere) : there = elsewhere := by
  have hmax := follow?_mono (Nat.le_max_left depth other) h
  rw [follow?_mono (Nat.le_max_right depth other) h'] at hmax
  exact (Option.some.inj hmax).symm

/-! ## File systems without link loops -/

/-- Every link can be followed to an end. -/
def Loopless (fs : FileSystem) : Prop :=
  ∀ place target, fs.link? place = some target →
    ∃ depth, (fs.follow? depth place.dropLast (Path.ofText target)).isSome

/-- Whether a link stands at a place that can be followed at the given depth. -/
def settles (fs : FileSystem) (depth : Nat) (place : Place) : Bool :=
  match fs.link? place with
  | some target => (fs.follow? depth place.dropLast (Path.ofText target)).isSome
  | none => false

/-- The places of the links that can be followed at the given depth. -/
def settled (fs : FileSystem) (depth : Nat) : List Place :=
  (Table.keys fs.entries).filter (fs.settles depth)

theorem settles_iff {depth : Nat} {place : Place} :
    fs.settles depth place = true ↔ ∃ target, fs.link? place = some target ∧
      (fs.follow? depth place.dropLast (Path.ofText target)).isSome := by
  unfold settles
  cases fs.link? place <;> simp

/-- What stands somewhere stands in the table, or is the root. -/
theorem mem_keys_of_stands {place : Place} (h : fs.entry? place ≠ none) (hroot : place ≠ []) :
    place ∈ Table.keys fs.entries := by
  by_contra hkey
  have habsent : Table.has place fs.entries = false := by
    rw [← Bool.not_eq_true, Table.has_iff]
    exact hkey
  unfold entry? at h
  rw [if_neg hroot] at h
  exact h (Table.get?_eq_none_iff.mpr habsent)

/-- A link stands in the table. -/
theorem mem_keys_of_link? {place : Place} {target : Text} (h : fs.link? place = some target) :
    place ∈ Table.keys fs.entries := by
  refine mem_keys_of_stands (fun hnone => ?_) (fun hroot => ?_)
  · simp [link?, hnone] at h
  · simp [hroot] at h

theorem settles_succ {depth : Nat} {place : Place} (h : fs.settles depth place = true) :
    fs.settles (depth + 1) place = true := by
  obtain ⟨target, hlink, hsome⟩ := settles_iff.mp h
  obtain ⟨there, hthere⟩ := Option.isSome_iff_exists.mp hsome
  exact settles_iff.mpr ⟨target, hlink, by rw [follow?_succ hthere]; rfl⟩

theorem settles_mono {depth more : Nat} (hle : depth ≤ more) {place : Place}
    (h : fs.settles depth place = true) : fs.settles more place = true := by
  induction hle with
  | refl => exact h
  | step _ ih => exact settles_succ ih

theorem settled_sublist (fs : FileSystem) (depth : Nat) :
    (fs.settled depth).Sublist (fs.settled (depth + 1)) :=
  List.monotone_filter_right _ fun _ h => settles_succ h

/-- What one more level does not add to, the next one does not either. -/
theorem settled_stable {depth : Nat} (h : fs.settled depth = fs.settled (depth + 1)) :
    fs.settled (depth + 1) = fs.settled (depth + 2) := by
  refine List.filter_congr fun place hplace => ?_
  rw [Bool.eq_iff_iff]
  refine ⟨settles_succ, fun hsettles => ?_⟩
  obtain ⟨target, hlink, hsome⟩ := settles_iff.mp hsettles
  obtain ⟨there, hthere⟩ := Option.isSome_iff_exists.mp hsome
  refine settles_iff.mpr ⟨target, hlink, ?_⟩
  -- The links on the way were followed one level deeper, so they can be at this depth.
  have hway : fs.follow? (depth + 1) place.dropLast (Path.ofText target) = some there := by
    refine foldlM_step?_mono (fun inner innerTarget hinner found hfound => ?_) hthere
    have hmem : inner ∈ fs.settled (depth + 1) :=
      List.mem_filter.mpr ⟨mem_keys_of_link? hinner,
        settles_iff.mpr ⟨innerTarget, hinner, by rw [hfound]; rfl⟩⟩
    rw [← h] at hmem
    obtain ⟨same, hsame, hsome⟩ := settles_iff.mp (List.mem_filter.mp hmem).2
    obtain rfl : innerTarget = same := Option.some.inj (hinner.symm.trans hsame)
    obtain ⟨nearer, hnearer⟩ := Option.isSome_iff_exists.mp hsome
    rw [hnearer, follow?_unique hnearer hfound]
  rw [hway]
  rfl

/-- **As many levels as there are entries are enough.** -/
theorem settled_eq {depth : Nat} (hle : fs.entries.length ≤ depth) :
    fs.settled fs.entries.length = fs.settled depth := by
  have hlength : (fs.settled depth).length = (fs.settled fs.entries.length).length := by
    refine Nat.stabilises_of_monotone (f := fun n => (fs.settled n).length)
      (monotone_nat_of_le_succ fun n => (settled_sublist fs n).length_le) (fun n => ?_)
      (fun n hn => ?_) hle
    · have hfilter := List.length_filter_le (fs.settles n) (Table.keys fs.entries)
      rwa [Table.keys, List.length_map] at hfilter
    · rw [settled_stable ((settled_sublist fs n).eq_of_length hn)]
  have hsub : (fs.settled fs.entries.length).Sublist (fs.settled depth) :=
    List.monotone_filter_right _ fun _ h => settles_mono hle h
  exact hsub.eq_of_length hlength.symm

namespace Loopless

/-- It is enough to follow the links of the table. -/
theorem of_keys (depth : Nat)
    (h : ∀ place ∈ Table.keys fs.entries, fs.link? place = none ∨ fs.settles depth place = true) :
    fs.Loopless := by
  intro place target hlink
  have hsettles : fs.settles depth place = true := by
    refine (h place (mem_keys_of_link? hlink)).resolve_left ?_
    rw [hlink]
    exact nofun
  obtain ⟨same, hsame, hsome⟩ := settles_iff.mp hsettles
  obtain rfl : target = same := Option.some.inj (hlink.symm.trans hsame)
  exact ⟨depth, hsome⟩

/-- Every link can be followed at one and the same depth. -/
theorem settles (h : fs.Loopless) {place : Place} {target : Text}
    (hlink : fs.link? place = some target) : fs.settles fs.entries.length place = true := by
  obtain ⟨depth, hdepth⟩ := h place target hlink
  have hmore : place ∈ fs.settled (max fs.entries.length depth) :=
    List.mem_filter.mpr ⟨mem_keys_of_link? hlink,
      settles_mono (Nat.le_max_right _ _) (settles_iff.mpr ⟨target, hlink, hdepth⟩)⟩
  rw [← settled_eq (Nat.le_max_left _ _)] at hmore
  exact (List.mem_filter.mp hmore).2

/-- No step is without an answer. -/
theorem exists_step? (h : fs.Loopless) (here : Place) (name : Text) :
    ∃ next, fs.step? (fs.follow? fs.entries.length) here name = some next := by
  unfold step?
  split
  · exact ⟨_, rfl⟩
  · cases hlink : fs.link? (here ++ [name]) with
    | none => exact ⟨_, rfl⟩
    | some target =>
        obtain ⟨same, hsame, hsome⟩ := settles_iff.mp (h.settles hlink)
        obtain rfl : target = same := Option.some.inj (hlink.symm.trans hsame)
        rw [List.dropLast_concat] at hsome
        exact Option.isSome_iff_exists.mp hsome

/-- Every path leads somewhere. -/
theorem exists_follow? (h : fs.Loopless) (here : Place) (path : Path) :
    ∃ there, fs.follow? (fs.entries.length + 1) here path = some there := by
  unfold follow?
  generalize originOf here path = start
  induction path.names generalizing start with
  | nil => exact ⟨start, rfl⟩
  | cons name rest ih =>
      obtain ⟨next, hnext⟩ := h.exists_step? start name
      obtain ⟨there, hthere⟩ := ih next
      exact ⟨there, by rw [List.foldlM_cons, hnext]; exact hthere⟩

end Loopless

/-! ## Resolution -/

/-- Components that change nothing may be left out. -/
theorem foldlM_step?_namesOf (f : Place → Path → Option Place) (text : Text) (here : Place) :
    (Path.namesOf text).foldlM (fs.step? f) here =
      (Text.splitOn '/' text).foldlM (fs.step? f) here := by
  unfold Path.namesOf
  induction Text.splitOn '/' text generalizing here with
  | nil => rfl
  | cons component rest ih =>
      by_cases hstays : component = [] ∨ component = ['.']
      · have hstep : fs.step? f here component = some here := by
          rcases hstays with rfl | rfl <;> simp [step?, Place.climb]
        rw [List.filter_cons_of_neg (by rcases hstays with rfl | rfl <;> simp), List.foldlM_cons,
          hstep, ih]
        rfl
      · obtain ⟨hempty, hdot⟩ := not_or.mp hstays
        rw [List.filter_cons_of_pos (by simp [hempty, hdot]), List.foldlM_cons, List.foldlM_cons]
        simp only [ih]

/-- Steps that can be made are made by the resolution. -/
theorem resolveFrom_eq {f : Place → Path → Option Place} {g : Place → Text → Except Place Place}
    (h : ∀ place target there, fs.link? place = some target →
      f place.dropLast (Path.ofText target) = some there → g place target = .ok there)
    {components : List Text} {here there : Place}
    (hf : components.foldlM (fs.step? f) here = some there) :
    fs.resolveFrom g here components = .ok there := by
  induction components generalizing here with
  | nil => exact congrArg Except.ok (Option.some.inj hf)
  | cons component rest ih =>
      rw [List.foldlM_cons] at hf
      obtain ⟨next, hstep, hrest⟩ := Option.bind_eq_some_iff.mp hf
      have hnext := ih hrest
      unfold step? at hstep
      unfold resolveFrom
      split at hstep
      · next hname => rw [if_pos hname, Option.some.inj hstep, hnext]
      · next hname =>
        rw [if_neg hname]
        cases hlink : fs.link? (here ++ [component]) with
        | some target =>
            have hfollow := h (here ++ [component]) target next hlink
            rw [List.dropLast_concat] at hfollow
            rw [hlink] at hstep
            simp only [link?_eq_some_iff.mp hlink, hfollow hstep, hnext]
        | none =>
            rw [hlink] at hstep
            rw [← Option.some.inj hstep] at hnext
            split
            · next target hentry => rw [link?_eq_some_iff.mpr hentry] at hlink; cases hlink
            · exact hnext

/-- **Step**: a link that can be followed at a depth is followed, if the links that it
is met on cannot be followed at that depth. -/
theorem followLink_eq {depth fuel : Nat} {active : List Place} {place there : Place}
    {target : Text} (hlink : fs.link? place = some target)
    (h : fs.follow? depth place.dropLast (Path.ofText target) = some there)
    (hactive : ∀ other ∈ active, fs.settles depth other = false) (hfuel : depth ≤ fuel) :
    fs.followLink fuel active place target = .ok there := by
  induction depth generalizing fuel active place there target with
  | zero => cases h
  | succ depth ih =>
      have hless : ∀ other ∈ active, fs.settles depth other = false := fun other hother =>
        Bool.eq_false_iff.mpr fun hsettles =>
          Bool.eq_false_iff.mp (hactive other hother) (settles_succ hsettles)
      cases hsettles : fs.settles depth place with
      | true =>
          -- The link needs less depth than this.
          obtain ⟨same, hsame, hsome⟩ := settles_iff.mp hsettles
          obtain rfl : target = same := Option.some.inj (hlink.symm.trans hsame)
          obtain ⟨nearer, hnearer⟩ := Option.isSome_iff_exists.mp hsome
          rw [← follow?_unique hnearer h]
          exact ih hlink hnearer hless (Nat.le_of_succ_le hfuel)
      | false =>
          obtain ⟨fuel, rfl⟩ := Nat.exists_eq_succ_of_ne_zero (Nat.ne_zero_of_lt hfuel)
          have hnew : place ∉ active := fun hmem =>
            Bool.eq_false_iff.mp (hactive place hmem)
              (settles_iff.mpr ⟨target, hlink, by rw [h]; rfl⟩)
          unfold followLink
          rw [if_neg hnew]
          unfold follow? at h
          rw [Path.ofText, foldlM_step?_namesOf] at h
          refine resolveFrom_eq (fun inner innerTarget found hinner hfound => ?_) h
          exact ih hinner hfound (List.forall_mem_cons.mpr ⟨hsettles, hless⟩)
            (Nat.le_of_succ_le_succ hfuel)

/-- **Where a path can be followed, it is resolved to where it leads.** -/
theorem trace_eq {cwd there : Place} {path : Path}
    (h : fs.follow? (fs.entries.length + 1) cwd path = some there) :
    fs.trace cwd path = .ok there := by
  refine resolveFrom_eq (fun place target found hlink hfound => ?_) h
  exact followLink_eq hlink hfound nofun le_rfl

/-- A path that is resolved leads to its place. -/
theorem resolve_of_tryResolve {cwd place : Place} {path : Path}
    (h : fs.tryResolve cwd path = .ok place) : fs.resolve cwd path = place := by
  unfold tryResolve at h
  unfold resolve
  split at h
  · cases h
  · cases htrace : fs.trace cwd path with
    | ok there =>
        rw [htrace] at h
        exact Except.ok.inj h
    | error caught =>
        simp only [htrace] at h
        split at h
        · cases h
        · exact Except.ok.inj h

namespace Loopless

theorem trace_resolve (h : fs.Loopless) (cwd : Place) (path : Path) :
    fs.trace cwd path = .ok (fs.resolve cwd path) := by
  obtain ⟨there, hthere⟩ := h.exists_follow? cwd path
  rw [resolve, trace_eq hthere]

/-- **Resolution follows every path to its end.** -/
theorem follow?_resolve (h : fs.Loopless) (cwd : Place) (path : Path) :
    fs.follow? (fs.entries.length + 1) cwd path = some (fs.resolve cwd path) := by
  obtain ⟨there, hthere⟩ := h.exists_follow? cwd path
  rw [hthere, resolve, trace_eq hthere]

/-- Only a null character keeps a path from being resolved. -/
theorem tryResolve_eq (h : fs.Loopless) (cwd : Place) (path : Path) :
    fs.tryResolve cwd path =
      if path.names.any (·.contains '\x00') then .error .null else .ok (fs.resolve cwd path) := by
  rw [tryResolve, h.trace_resolve]

end Loopless

/-! ## The same links -/

theorem follow?_eq_of_link?_eq {other : FileSystem} (h : other.link? = fs.link?) (depth : Nat) :
    other.follow? depth = fs.follow? depth := by
  induction depth with
  | zero => rfl
  | succ depth ih =>
      funext here path
      unfold follow? step?
      rw [ih, h]

theorem Loopless.of_link?_eq {other : FileSystem} (h : fs.Loopless)
    (hlink : other.link? = fs.link?) : other.Loopless := by
  intro place target hplace
  rw [hlink] at hplace
  obtain ⟨depth, hdepth⟩ := h place target hplace
  exact ⟨depth, by rw [follow?_eq_of_link?_eq hlink]; exact hdepth⟩

/-- **Entries that are no links have no say in where a path leads.** -/
theorem Loopless.resolve_eq_of_link?_eq {other : FileSystem} (h : fs.Loopless)
    (hlink : other.link? = fs.link?) (cwd : Place) (path : Path) :
    other.resolve cwd path = fs.resolve cwd path := by
  have hother := (h.of_link?_eq hlink).follow?_resolve cwd path
  rw [follow?_eq_of_link?_eq hlink] at hother
  exact follow?_unique hother (h.follow?_resolve cwd path)

theorem Loopless.tryResolve_eq_of_link?_eq {other : FileSystem} (h : fs.Loopless)
    (hlink : other.link? = fs.link?) (cwd : Place) (path : Path) :
    other.tryResolve cwd path = fs.tryResolve cwd path := by
  rw [(h.of_link?_eq hlink).tryResolve_eq, h.tryResolve_eq, h.resolve_eq_of_link?_eq hlink]

/-! ## Places without links -/

/-- A place that is written as it stands: there is no link on the way, and its
names are names. -/
structure Plain (fs : FileSystem) (place : Place) : Prop where
  link? : ∀ above, above <+: place → fs.link? above = none
  names : ∀ name ∈ place, name ≠ ['.'] ∧ name ≠ ['.', '.']

namespace Plain

theorem nil (fs : FileSystem) : fs.Plain [] where
  link? above h := by rw [List.prefix_nil.mp h, link?_nil]
  names _ h := nomatch h

theorem above {place higher : Place} (h : fs.Plain place) (hle : higher <+: place) :
    fs.Plain higher where
  link? above habove := h.link? above (habove.trans hle)
  names name hname := h.names name (hle.mem hname)

theorem dropLast {place : Place} (h : fs.Plain place) : fs.Plain place.dropLast :=
  h.above (List.dropLast_prefix place)

theorem concat {place : Place} {name : Text} (h : fs.Plain place)
    (hlink : fs.link? (place ++ [name]) = none) (hdot : name ≠ ['.']) (hup : name ≠ ['.', '.']) :
    fs.Plain (place ++ [name]) where
  link? above habove := by
    cases List.prefix_concat_iff.mp habove with
    | inl heq => rw [heq, hlink]
    | inr hle => exact h.link? above hle
  names other hother := by
    cases List.mem_append.mp hother with
    | inl hmem => exact h.names other hmem
    | inr hlast => rw [List.mem_singleton.mp hlast]; exact ⟨hdot, hup⟩

/-- A component that is no name leads to the place itself or above it. -/
theorem climb {place : Place} (h : fs.Plain place) {component : Text}
    (hcomponent : component = [] ∨ component = ['.'] ∨ component = ['.', '.']) :
    fs.Plain (place.climb component) := by
  rcases hcomponent with rfl | rfl | rfl
  · exact h
  · exact h
  · exact h.dropLast

theorem of_link?_eq {other : FileSystem} {place : Place} (h : fs.Plain place)
    (hlink : other.link? = fs.link?) : other.Plain place where
  link? above habove := by rw [hlink, h.link? above habove]
  names := h.names

end Plain

/-- The way is plain if what the links on it lead to is. -/
theorem plain_of_foldlM_step? {f : Place → Path → Option Place}
    (hf : ∀ here text there, fs.Plain here → f here (Path.ofText text) = some there →
      fs.Plain there)
    {names : List Text} {here there : Place} (hhere : fs.Plain here)
    (h : names.foldlM (fs.step? f) here = some there) : fs.Plain there := by
  induction names generalizing here with
  | nil => rw [← Option.some.inj h]; exact hhere
  | cons name rest ih =>
      rw [List.foldlM_cons] at h
      obtain ⟨next, hstep, hrest⟩ := Option.bind_eq_some_iff.mp h
      refine ih ?_ hrest
      unfold step? at hstep
      split at hstep
      · next hname =>
        rw [← Option.some.inj hstep]
        exact hhere.climb hname
      · next hname =>
        obtain ⟨-, hdot, hup⟩ := not_or.mp hname |>.imp_right not_or.mp
        cases hlink : fs.link? (here ++ [name]) with
        | none =>
            rw [hlink] at hstep
            rw [← Option.some.inj hstep]
            exact hhere.concat hlink hdot hup
        | some target =>
            rw [hlink] at hstep
            exact hf here target next hhere hstep

/-- From a plain place every path leads to a plain one. -/
theorem plain_of_follow? {depth : Nat} {here there : Place} {path : Path} (hhere : fs.Plain here)
    (h : fs.follow? depth here path = some there) : fs.Plain there := by
  induction depth generalizing here path there with
  | zero => cases h
  | succ depth ih =>
      have horigin : fs.Plain (originOf here path) := by
        unfold originOf
        split
        · exact Plain.nil fs
        · exact hhere
      exact plain_of_foldlM_step? (fun _ _ _ hplain hf => ih hplain hf) horigin h

/-- **Resolution ends at a place without links.** -/
theorem Loopless.plain_resolve (h : fs.Loopless) {cwd : Place} (hcwd : fs.Plain cwd)
    (path : Path) : fs.Plain (fs.resolve cwd path) :=
  plain_of_follow? hcwd (h.follow?_resolve cwd path)

end SchemeCheck.FileSystem
