import EaBot.Foundation.Text

/-!
# Windows paths

The path operations with which a terminal's folder is found and compared.  They are
written over lists of characters, follow the conventions for drives and network shares,
and never look at a disk.
-/

namespace EaBot.Foundation.NtPath

/-- Whether the character separates the components of a path. -/
def isSep (char : Char) : Bool :=
  char = '\\' || char = '/'

/-- Whether the path begins with the long prefix of a network share. -/
def hasUncPrefix (path : List Char) : Bool :=
  ((path.take 8).map fun char => if char = '/' then '\\' else char.toUpper) =
    "\\\\?\\UNC\\".toList

/-- The drive of a network share, its root and the rest. -/
def splitShare (path : List Char) : List Char × List Char × List Char :=
  let start := if hasUncPrefix path then 8 else 2
  let server := (path.drop start).takeWhile fun char => !isSep char
  match path.drop (start + server.length) with
  | [] => (path, [], [])
  | _ :: rest =>
      let share := rest.takeWhile fun char => !isSep char
      match rest.drop share.length with
      | [] => (path, [], [])
      | root :: tail => (path.take (start + server.length + 1 + share.length), [root], tail)

/-- The drive, the root and the rest of a path. -/
def splitRoot : List Char → List Char × List Char × List Char
  | first :: second :: rest =>
      if isSep first then
        if isSep second then splitShare (first :: second :: rest)
        else ([], [first], second :: rest)
      else if second = ':' then
        match rest with
        | [] => ([first, second], [], [])
        | third :: tail =>
            if isSep third then ([first, second], [third], tail)
            else ([first, second], [], third :: tail)
      else ([], [], first :: second :: rest)
  | [first] => if isSep first then ([], [first], []) else ([], [], [first])
  | [] => ([], [], [])

/-- The folder that a path names something in. -/
def dirname (path : String) : String :=
  let (drive, root, rest) := splitRoot path.toList
  let head := (rest.reverse.dropWhile fun char => !isSep char).dropWhile isSep
  String.ofList (drive ++ root ++ head.reverse)

/-- The last component of a path. -/
def basename (path : String) : String :=
  let (_, _, rest) := splitRoot path.toList
  String.ofList (rest.reverse.takeWhile fun char => !isSep char).reverse

/-- The components of a path. -/
def components (path : List Char) : List (List Char) :=
  path.foldr (fun char parts =>
    if char = '\\' then [] :: parts
    else
      match parts with
      | [] => [[char]]
      | part :: rest => (char :: part) :: rest) [[]]

/-- The components that are left, the last one first, when the ones that stay in place or
go back are resolved. -/
def resolveParts (rooted : Bool) : List (List Char) → List (List Char) → List (List Char)
  | resolved, [] => resolved
  | resolved, part :: rest =>
      if part = [] ∨ part = ['.'] then resolveParts rooted resolved rest
      else if part = ['.', '.'] then
        match resolved with
        | [] => resolveParts rooted (if rooted then [] else [part]) rest
        | last :: earlier =>
            if last = ['.', '.'] then resolveParts rooted (part :: last :: earlier) rest
            else resolveParts rooted earlier rest
      else resolveParts rooted (part :: resolved) rest

/-- The path without redundant components. -/
def normpath (path : String) : String :=
  let chars := path.toList.map fun char => if char = '/' then '\\' else char
  let (drive, root, rest) := splitRoot chars
  let parts := (resolveParts (!root.isEmpty) [] (components rest)).reverse
  let parts := if (drive ++ root).isEmpty ∧ parts.isEmpty then [['.']] else parts
  String.ofList (drive ++ root ++ List.intercalate ['\\'] parts)

/-- The path as it is compared. -/
def normcase (path : String) : String :=
  Text.lower (String.ofList (path.toList.map fun char => if char = '/' then '\\' else char))

/-- A path in the one form in which two paths are compared. -/
def norm (path : String) : String :=
  normcase (normpath path)

example : dirname "C:\\MT5 A\\terminal64.exe" = "C:\\MT5 A" := by decide +kernel

example : norm "C:/Brokers/./X/../MT5 A//" = "c:\\brokers\\mt5 a" := by decide +kernel

end EaBot.Foundation.NtPath
