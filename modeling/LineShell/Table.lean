import LineShell.Text.Basic

/-
  Tables keyed by texts, in the order in which their keys
  were first put.

  Main declarations:
    * `Table`
    * `Table.find?`
    * `Table.put`
    * `Table.erase`
    * `Table.ofList`
-/

------------------------------------------------------------
-- Tables
------------------------------------------------------------

namespace LineShell

/- Entries of a key and a value. -/
abbrev Table (α : Type) :=
  List (Text × α)

namespace Table

variable {α : Type}

/- The value at a key. -/
def find?
    (key : Text) : Table α → Option α
  | [] => none
  | entry :: rest =>
      if entry.1 = key then
        some entry.2
      else
        find? key rest

/- Give a key a value; a new key comes last. -/
def put
    (key : Text)
    (a : α) : Table α → Table α
  | [] => [(key, a)]
  | entry :: rest =>
      if entry.1 = key then
        (key, a) :: rest
      else
        entry :: put key a rest

/- Drop a key. -/
def erase
    (key : Text)
    (table : Table α) : Table α :=
  table.filter (·.1 ≠ key)

/- Put entries one after the other; the last of a key wins. -/
def ofList
    (entries : List (Text × α)) : Table α :=
  entries.foldl (fun table entry => put entry.1 entry.2 table) []

end Table

end LineShell

------------------------------------------------------------
-- Reading After Writing
------------------------------------------------------------

namespace LineShell

namespace Table

variable {α : Type}

/- A key that was put has its value, the others theirs. -/
theorem find?_put
    (key other : Text)
    (a : α)
    (table : Table α) :
    find? other (put key a table) =
      if key = other then some a else find? other table := by
  induction table with
  | nil => simp [put, find?]
  | cons entry rest ih =>
      by_cases hKey : entry.1 = key
      · by_cases hOther : key = other
        · simp [put, find?, hKey, hOther]
        · simp [put, find?, hKey, hOther]
      · by_cases hOther : entry.1 = other
        · have hNe : ¬ key = other := by
            intro hEq
            exact hKey (hOther.trans hEq.symm)
          subst hOther
          simp [put, find?, hKey, hNe]
        · simp [put, find?, hKey, hOther, ih]

/- A key that was dropped has no value, the others theirs. -/
theorem find?_erase
    (key other : Text)
    (table : Table α) :
    find? other (erase key table) =
      if key = other then none else find? other table := by
  induction table with
  | nil => simp [erase, find?]
  | cons entry rest ih =>
      by_cases hKey : entry.1 = key
      · by_cases hOther : key = other
        · simp_all [erase]
        · simp_all [erase, find?]
      · by_cases hOther : entry.1 = other
        · have hNe : ¬ key = other := by
            intro hEq
            exact hKey (hOther.trans hEq.symm)
          simp_all [erase, find?]
        · simp_all [erase, find?]

end Table

end LineShell
