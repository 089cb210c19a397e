/-!
# First occurrences

The items of a list whose key has not come before, in their order.
-/

namespace BlockSearch

/-- The items whose key is neither among those seen nor that of an earlier item. -/
def distinctFrom
    {α : Type}
    (key : α → String) : (seen : List String) → List α → List α
  | _, [] => []
  | seen, item :: items =>
      if seen.contains (key item) then distinctFrom key seen items
      else item :: distinctFrom key (key item :: seen) items

/-- The items whose key is not that of an earlier item. -/
def distinctBy {α : Type} (key : α → String) (items : List α) : List α :=
  distinctFrom key [] items

/-- The texts that have not come before. -/
def distinct (texts : List String) : List String := distinctBy id texts

end BlockSearch
