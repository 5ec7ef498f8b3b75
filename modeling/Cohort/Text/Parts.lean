/-!
# Parts of a text

`parts` cuts a text at its separators, which belong to no part.
-/

namespace Cohort.Text

/-- The maximal parts of a text between separators; there is always at least one. -/
def parts (isSeparator : Char → Bool) : List Char → List (List Char)
  | [] => [[]]
  | c :: cs =>
    if isSeparator c then [] :: parts isSeparator cs
    else match parts isSeparator cs with
      | [] => [[c]]
      | p :: ps => (c :: p) :: ps

theorem parts_ne_nil (isSeparator : Char → Bool) (cs : List Char) : parts isSeparator cs ≠ [] := by
  cases cs with
  | nil => simp [parts]
  | cons c cs =>
    rw [parts]
    split
    · simp
    · split <;> simp

end Cohort.Text
