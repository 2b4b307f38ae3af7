/-!
# Replacing a piece of text

All occurrences of a pattern are replaced, found from left to right and without overlap.  What is put
in is not searched again.
-/

namespace InterfaceSync.Text

/-- The text with each occurrence of `pattern` replaced.  The empty pattern occurs nowhere. -/
def replaceAll (pattern replacement : List Char) : List Char → List Char
  | [] => []
  | c :: rest =>
    if pattern ≠ [] ∧ pattern.isPrefixOf (c :: rest) = true then
      replacement ++ replaceAll pattern replacement (rest.drop (pattern.length - 1))
    else c :: replaceAll pattern replacement rest
  termination_by text => text.length
  decreasing_by
    · simp only [List.length_drop, List.length_cons]
      omega
    · simp

@[simp] theorem replaceAll_nil (pattern replacement : List Char) :
    replaceAll pattern replacement [] = [] := by
  rw [replaceAll]

end InterfaceSync.Text
