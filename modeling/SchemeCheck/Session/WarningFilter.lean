import SchemeCheck.Text.Decimal

/-!
# SchemeCheck.Session.WarningFilter

Filters that say what becomes of warnings: up to five parts with colons between
them, which name an action, a message, a category, a module and a line.
-/

namespace SchemeCheck.Session

/-- The actions of filters; one may be shortened. -/
def filterActions : List String :=
  ["default", "always", "all", "ignore", "module", "once", "error"]

/-- The categories of warnings that have no module in their names. -/
def filterCategories : List String :=
  ["", "Warning", "UserWarning", "DeprecationWarning", "SyntaxWarning", "RuntimeWarning",
   "FutureWarning", "PendingDeprecationWarning", "ImportWarning", "UnicodeWarning",
   "BytesWarning", "ResourceWarning", "EncodingWarning"]

/-- Whether a category exists.  A class in a module counts by its name alone. -/
def isFilterCategory (category : Text) : Bool :=
  if category.contains '.' then "Warning".toList.isSuffixOf category
  else filterCategories.contains (String.ofList category)

/-- Whether a filter is well-formed. -/
def isWarningFilter (filter : Text) : Bool :=
  let parts := (Text.splitOn ':' filter).map Text.trim
  let part (i : Nat) : Text := parts[i]?.getD []
  let line := part 4
  decide (parts.length ≤ 5) &&
    (filterActions.any fun action => (part 0).isPrefixOf action.toList) &&
    isFilterCategory (part 2) &&
    (line.isEmpty || Text.isWhole line && line.head? ≠ some '-')

end SchemeCheck.Session
