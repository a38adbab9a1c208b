/-!
# Counted nouns

  A count with its noun: one thing, all other numbers of things.
-/

namespace DocSite

/-- The ending of a counted noun. -/
def pluralEnding (n : Nat) : String := if n = 1 then "" else "s"

/-- A count with its noun. -/
def counted (n : Nat) (noun : String) : String := toString n ++ " " ++ noun ++ pluralEnding n

end DocSite
