/-!
# SchemeCheck.Table

Tables that remember the order in which their keys first appeared: putting a
value under a known key changes the value and keeps the place.  Fixture files,
environments and mappings in input values are tables.
-/

namespace SchemeCheck

/-- A table, as its entries in the order of their keys' first appearance. -/
abbrev Table (κ ν : Type) := List (κ × ν)

namespace Table

variable {κ ν : Type} [DecidableEq κ]

def get? (key : κ) (table : Table κ ν) : Option ν :=
  (table.find? (fun entry => decide (entry.1 = key))).map Prod.snd

def keys (table : Table κ ν) : List κ :=
  table.map Prod.fst

def has (key : κ) (table : Table κ ν) : Bool :=
  table.any (fun entry => decide (entry.1 = key))

/-- Store a value under a key: in place if the key is known, last otherwise. -/
def put (key : κ) (value : ν) (table : Table κ ν) : Table κ ν :=
  if has key table then
    table.map (fun entry => if entry.1 = key then (key, value) else entry)
  else
    table ++ [(key, value)]

/-- Store every entry of `later` in `table`, one after another. -/
def merge (table later : Table κ ν) : Table κ ν :=
  later.foldl (fun acc entry => put entry.1 entry.2 acc) table

/-- The table of a list of entries, of which the last one for a key counts. -/
def ofEntries (entries : List (κ × ν)) : Table κ ν :=
  merge [] entries

/-- The table without the entries whose key is in `names`. -/
def without (names : List κ) (table : Table κ ν) : Table κ ν :=
  table.filter (fun entry => decide (entry.1 ∉ names))

end Table

end SchemeCheck
