/-! # File names

The extension of a file name: what follows its last dot, if something stands before
that dot.
-/

namespace FormValidity

namespace Text

/-- The last component of a slash-separated path. -/
def baseName (path : List Char) : List Char :=
  (path.reverse.takeWhile (· ≠ '/')).reverse

/-- The extension of a file name. A dot at the beginning begins no extension, and the
name `..` has none. -/
def extension? (path : String) : Option String :=
  let reversed := (baseName path.toList).reverse
  let extension := (reversed.takeWhile (· ≠ '.')).reverse
  let before := (reversed.dropWhile (· ≠ '.')).drop 1
  if before = [] ∨ reversed = ['.', '.'] then none else some (String.ofList extension)

end Text

end FormValidity
