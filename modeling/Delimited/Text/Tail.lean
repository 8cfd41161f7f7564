/-!
# Ends of texts

A reader that takes something off the front of a text gives back what is left. `tailOf s r` is that rest `r` again,
cut down to the length of `s` should it be longer; a loop that goes on at `tailOf s r`, after it has taken a
character in front of `s`, ends for any reader.
-/

namespace Delimited

/-- What `r` is of the end of `s`: all of `r` when `s` ends in it, and never more than `s`. -/
def tailOf (s r : List Char) : List Char := s.drop (s.length - r.length)

theorem length_tailOf_le (s r : List Char) : (tailOf s r).length ≤ s.length := by
  simp only [tailOf, List.length_drop]; omega

@[simp] theorem tailOf_append (a r : List Char) : tailOf (a ++ r) r = r := by
  simp [tailOf]

@[simp] theorem tailOf_self (r : List Char) : tailOf r r = r := by simp [tailOf]

end Delimited
