import FormRules.Text

/-!
Paths of files: names with slashes between them.
-/

namespace FormRules.Path

/-- Whether a part names nothing: it is empty or stands for the directory it is in. -/
def isIdle (part : List Char) : Bool :=
  part.isEmpty || part == ['.']

/-- The directory of a file; empty if the path is a name alone. -/
def parent (path : String) : String :=
  match (Text.splitOn '/' path.toList).dropLast with
  | [] => ""
  | first :: rest =>
    let parts := first :: (rest.reverse.dropWhile isIdle).reverse
    if parts == [[]] then "/" else String.ofList (['/'].intercalate parts)

def join (directory path : String) : String :=
  if path.toList.head? == some '/' || directory.isEmpty then path
  else if directory.toList.getLast? == some '/' then directory ++ path
  else directory ++ "/" ++ path

end FormRules.Path
