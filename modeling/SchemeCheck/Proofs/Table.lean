import SchemeCheck.Table

/-!
# SchemeCheck.Proofs.Table

Laws of tables.  A look-up after `put` finds the value that was put last
(`get?_put`), a second `put` under the same key undoes the first (`put_put`),
and in a table that is a function of its keys `put` changes the function at one
key (`put_map`).  Entries with different keys are a table as they are
(`ofEntries_of_nodup`).
-/

namespace SchemeCheck.Table

variable {κ ν : Type} [DecidableEq κ]

/-! ## Keys -/

theorem has_iff {key : κ} {table : Table κ ν} : has key table = true ↔ key ∈ keys table := by
  simp [has, keys]

@[simp] theorem get?_nil (key : κ) : get? key ([] : Table κ ν) = none := rfl

theorem get?_cons (key : κ) (entry : κ × ν) (table : Table κ ν) :
    get? key (entry :: table) = if entry.1 = key then some entry.2 else get? key table := by
  unfold get?
  rw [List.find?_cons]
  split <;> simp_all

theorem get?_append (key : κ) (xs ys : Table κ ν) :
    get? key (xs ++ ys) = (get? key xs).or (get? key ys) := by
  induction xs with
  | nil => rfl
  | cons entry rest ih =>
      rw [List.cons_append, get?_cons, get?_cons, ih]
      split <;> rfl

/-- A key without a value is no key of the table. -/
theorem get?_eq_none_iff {key : κ} {table : Table κ ν} :
    get? key table = none ↔ has key table = false := by
  simp [get?, has]

/-! ## Storing -/

/-- `put` under a known key is a change in place. -/
def setAt (key : κ) (value : ν) (entry : κ × ν) : κ × ν :=
  if entry.1 = key then (key, value) else entry

theorem put_of_has {key : κ} {table : Table κ ν} (h : has key table = true) (value : ν) :
    put key value table = table.map (setAt key value) := by
  rw [put, if_pos h]
  rfl

theorem put_of_not_has {key : κ} {table : Table κ ν} (h : has key table = false) (value : ν) :
    put key value table = table ++ [(key, value)] := by
  rw [put, if_neg (by simp [h])]

@[simp] theorem setAt_fst (key : κ) (value : ν) (entry : κ × ν) :
    (setAt key value entry).1 = entry.1 := by
  unfold setAt
  split
  · next h => exact h.symm
  · rfl

theorem has_map_setAt (key other : κ) (value : ν) (table : Table κ ν) :
    has other (table.map (setAt key value)) = has other table := by
  simp [has, Function.comp_def]

theorem get?_map_setAt (key other : κ) (value : ν) (table : Table κ ν) :
    get? other (table.map (setAt key value)) =
      if key = other then (get? other table).map fun _ => value else get? other table := by
  induction table with
  | nil => simp
  | cons entry rest ih =>
      rw [List.map_cons, get?_cons, get?_cons, ih, setAt_fst]
      by_cases hother : entry.1 = other
      · by_cases hkey : key = other
        · simp [hother, hkey, setAt]
        · have hne : other ≠ key := fun e => hkey e.symm
          simp [hother, hkey, setAt, hne]
      · simp [hother]

/-- **Look-up**: what was put under a key is found there, and elsewhere nothing
changes. -/
theorem get?_put (key other : κ) (value : ν) (table : Table κ ν) :
    get? other (put key value table) = if key = other then some value else get? other table := by
  cases hhas : has key table with
  | true =>
      rw [put_of_has hhas, get?_map_setAt]
      split
      · next hkey =>
        subst hkey
        obtain ⟨found, hfound⟩ : ∃ found, get? key table = some found := by
          cases hget : get? key table with
          | none => rw [get?_eq_none_iff, hhas] at hget; cases hget
          | some found => exact ⟨found, rfl⟩
        rw [hfound, Option.map_some]
      · rfl
  | false =>
      rw [put_of_not_has hhas, get?_append, get?_cons, get?_nil]
      by_cases hkey : key = other
      · subst hkey
        simp [get?_eq_none_iff.mpr hhas]
      · simp [hkey]

/-- An entry after storing is the one that was stored or one from before. -/
theorem of_mem_put {key : κ} {value : ν} {table : Table κ ν} {entry : κ × ν}
    (h : entry ∈ put key value table) : entry = (key, value) ∨ entry ∈ table := by
  cases hhas : has key table with
  | true =>
      rw [put_of_has hhas] at h
      obtain ⟨before, hbefore, rfl⟩ := List.mem_map.mp h
      unfold setAt
      split
      · exact .inl rfl
      · exact .inr hbefore
  | false =>
      rw [put_of_not_has hhas, List.mem_append, List.mem_singleton] at h
      exact h.symm

/-- Of two values under one key only the later one counts. -/
theorem put_put (key : κ) (first second : ν) (table : Table κ ν) :
    put key second (put key first table) = put key second table := by
  cases hhas : has key table with
  | true =>
      rw [put_of_has hhas, put_of_has hhas, put_of_has (by rw [has_map_setAt, hhas]),
        List.map_map]
      congr 1
      funext entry
      unfold setAt Function.comp
      by_cases hkey : entry.1 = key <;> simp [hkey]
  | false =>
      have hafter : has key (table ++ [(key, first)]) = true := by
        simp [has]
      have hkeep : table.map (setAt key second) = table := by
        refine (List.map_congr_left fun entry hentry => ?_).trans (List.map_id table)
        have hne : entry.1 ≠ key := by
          simp only [has, List.any_eq_false, decide_eq_true_eq] at hhas
          exact hhas entry hentry
        rw [setAt, if_neg hne, id]
      rw [put_of_not_has hhas, put_of_not_has hhas, put_of_has hafter, List.map_append, hkeep]
      simp [setAt]

/-- Some keys with one more: last, unless it is one of them. -/
def withKey (key : κ) (names : List κ) : List κ :=
  if key ∈ names then names else names ++ [key]

theorem nodup_withKey {names : List κ} (h : names.Nodup) (key : κ) : (withKey key names).Nodup := by
  unfold withKey
  split
  · exact h
  · next hnew =>
    refine List.nodup_append.mpr ⟨h, List.pairwise_singleton _ key, ?_⟩
    intro name hname other hother he
    obtain rfl := List.mem_singleton.mp hother
    exact hnew (he ▸ hname)

theorem keys_put (key : κ) (value : ν) (table : Table κ ν) :
    keys (put key value table) = withKey key (keys table) := by
  cases hhas : has key table with
  | true =>
      rw [put_of_has hhas, withKey, if_pos (has_iff.mp hhas), keys, List.map_map]
      exact List.map_congr_left fun entry _ => setAt_fst key value entry
  | false =>
      have hmem : key ∉ keys table := by
        rw [← has_iff, hhas]
        exact Bool.false_ne_true
      rw [put_of_not_has hhas, withKey, if_neg hmem]
      simp [keys]

/-- In a table whose values follow from its keys, `put` changes what follows
from one key. -/
theorem put_map (names : List κ) (f : κ → ν) (key : κ) (value : ν) :
    put key value (names.map fun name => (name, f name)) =
      (withKey key names).map fun name => (name, if name = key then value else f name) := by
  have hkeys : keys (names.map fun name => (name, f name)) = names := by
    simp [keys, Function.comp_def]
  unfold withKey
  by_cases hmem : key ∈ names
  · rw [put_of_has (has_iff.mpr (by rwa [hkeys])), if_pos hmem, List.map_map]
    refine List.map_congr_left fun name _ => ?_
    by_cases hname : name = key <;> simp [setAt, hname]
  · have hhas : has key (names.map fun name => (name, f name)) = false := by
      rw [← Bool.not_eq_true, has_iff, hkeys]
      exact hmem
    rw [put_of_not_has hhas, if_neg hmem, List.map_append]
    congr 1
    · refine List.map_congr_left fun name hname => ?_
      have hne : name ≠ key := fun e => hmem (e ▸ hname)
      rw [if_neg hne]
    · simp

theorem get?_map (names : List κ) (f : κ → ν) (key : κ) :
    get? key (names.map fun name => (name, f name)) =
      if key ∈ names then some (f key) else none := by
  induction names with
  | nil => rfl
  | cons name rest ih =>
      rw [List.map_cons, get?_cons, ih]
      by_cases hname : name = key
      · simp [hname]
      · have hne : key ≠ name := fun e => hname e.symm
        simp [hname, hne]

/-! ## Entries -/

/-- Entries with new keys are stored behind the others, in their order. -/
theorem merge_of_nodup {table later : Table κ ν} (h : (keys (table ++ later)).Nodup) :
    merge table later = table ++ later := by
  induction later generalizing table with
  | nil => simp [merge]
  | cons entry rest ih =>
      have hmoved : table ++ entry :: rest = (table ++ [entry]) ++ rest := by simp
      have hnew : has entry.1 table = false := by
        rw [← Bool.not_eq_true, has_iff]
        rw [keys, List.map_append, List.map_cons] at h
        exact fun hmem => (List.nodup_append.mp h).2.2 _ hmem _ List.mem_cons_self rfl
      rw [hmoved] at h ⊢
      rw [← ih h, merge, List.foldl_cons, put_of_not_has hnew]
      rfl

/-- Entries of which no two have the same key are a table as they are. -/
theorem ofEntries_of_nodup {table : Table κ ν} (h : (keys table).Nodup) :
    ofEntries table = table :=
  merge_of_nodup h

/-- Storing one entry more. -/
theorem merge_concat (table later : Table κ ν) (entry : κ × ν) :
    merge table (later ++ [entry]) = put entry.1 entry.2 (merge table later) :=
  List.foldl_append

/-- Entries are stored one after another. -/
theorem ofEntries_append (entries later : List (κ × ν)) :
    ofEntries (entries ++ later) = merge (ofEntries entries) later :=
  List.foldl_append

theorem nodup_keys_merge {table : Table κ ν} (h : (keys table).Nodup) (later : Table κ ν) :
    (keys (merge table later)).Nodup := by
  induction later generalizing table with
  | nil => exact h
  | cons entry rest ih => exact ih (keys_put entry.1 entry.2 table ▸ nodup_withKey h entry.1)

theorem nodup_keys_ofEntries (entries : List (κ × ν)) : (keys (ofEntries entries)).Nodup := by
  have hnone : (keys ([] : Table κ ν)).Nodup := List.nodup_nil
  exact nodup_keys_merge hnone entries

/-! ## Removing -/

theorem nodup_keys_without {table : Table κ ν} (h : (keys table).Nodup) (names : List κ) :
    (keys (without names table)).Nodup :=
  h.sublist (List.filter_sublist.map Prod.fst)

/-- What is removed is not found, and elsewhere nothing changes. -/
theorem get?_without (key : κ) (names : List κ) (table : Table κ ν) :
    get? key (without names table) = if key ∈ names then none else get? key table := by
  induction table with
  | nil => simp [without]
  | cons entry rest ih =>
      rw [without] at ih ⊢
      by_cases hentry : entry.1 ∈ names
      · rw [List.filter_cons_of_neg (by simpa using hentry), ih, get?_cons]
        by_cases hkey : entry.1 = key
        · rw [← hkey, if_pos hentry, if_pos hentry]
        · rw [if_neg hkey]
      · rw [List.filter_cons_of_pos (by simpa using hentry), get?_cons, get?_cons, ih]
        by_cases hkey : entry.1 = key
        · rw [if_pos hkey, if_pos hkey, ← hkey, if_neg hentry]
        · rw [if_neg hkey, if_neg hkey]

end SchemeCheck.Table
