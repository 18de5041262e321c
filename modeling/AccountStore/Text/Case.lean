/-!
Names in snake case.
-/

namespace AccountStore.Text

/-- A name of capitalised ASCII words in small letters, with an underscore before each word but the
first. -/
def snakeCase : List Char → List Char
  | [] => []
  | c :: rest =>
      c.toLower :: rest.flatMap fun c => if c.isUpper then ['_', c.toLower] else [c.toLower]

example : snakeCase "StartWorkYear".toList = "start_work_year".toList := by decide

end AccountStore.Text
