/-!
# Files

What reading a file may give, paths that are put together from parts, and a tree of files that is held in
memory.
-/

namespace FromClause

/-- Why a file cannot be read. -/
inductive ReadFailure where
  /-- There is nothing at the path. -/
  | missing
  /-- There is a directory at the path. -/
  | directory
  /-- The bytes of the file are no text. -/
  | notText
  /-- Anything else, as the system words it. -/
  | other (reason : String)
  deriving DecidableEq, Repr

/-- The wording of the failure. -/
def ReadFailure.message : ReadFailure → String
  | missing => "No such file or directory (os error 2)"
  | directory => "Is a directory (os error 21)"
  | notText => "stream did not contain valid UTF-8"
  | other reason => reason

/-- What reading a file gives. -/
abbrev Reading := Except ReadFailure String

namespace Path

/-- A path below another one. An absolute path stands for itself. -/
def join (base path : String) : String :=
  if path.startsWith "/" || base.isEmpty then path
  else if base.endsWith "/" then base ++ path
  else base ++ "/" ++ path

/-- The names on a path, without those that stay in place. -/
def names (path : String) : List String :=
  (path.splitOn "/").filter fun name => name ≠ "" && name ≠ "."

end Path

/-! ## Files in memory -/

/-- A file or a directory. -/
inductive FileTree where
  /-- A file with its contents, if they are text. -/
  | file (content : Option String)
  /-- A directory with what it holds. -/
  | directory (children : List (String × FileTree))
  deriving Inhabited

namespace FileTree

/-- The directory without contents. -/
def empty : FileTree := directory []

/-- The children of a directory. -/
def children : FileTree → List (String × FileTree)
  | file _ => []
  | directory children => children

/-- What stands under a name. -/
def child? (tree : FileTree) (name : String) : Option FileTree := tree.children.lookup name

/-- The tree with something put at the end of the given names. Directories on the way are made. -/
def put (tree : FileTree) : (names : List String) → (leaf : FileTree) → FileTree
  | [], leaf => leaf
  | name :: names, leaf =>
    let below := put ((tree.child? name).getD empty) names leaf
    directory ((name, below) :: tree.children.filter fun child => child.1 ≠ name)

/-- What stands at the end of the given names. `above` holds the directories that lead to `tree`, the nearest
first; what lies above all of them is taken for an empty directory. -/
def find? (above : List FileTree) (tree : FileTree) : List String → Option FileTree
  | [] => some tree
  | name :: names =>
    match tree with
    | file _ => none
    | directory _ =>
      if name = ".." then
        match above with
        | [] => find? [] empty names
        | parent :: above => find? above parent names
      else
        match tree.child? name with
        | none => none
        | some below => find? (tree :: above) below names

/-- What reading a relative path gives. A path that ends like that of a directory leads to no file. -/
def read (tree : FileTree) (path : String) : Reading :=
  if path.isEmpty || path.startsWith "/" then .error .missing
  else
    match tree.find? [] (Path.names path) with
    | none => .error .missing
    | some (directory _) => .error .directory
    | some (file content) =>
      if path.endsWith "/" || path.endsWith "/." then .error .missing
      else
        match content with
        | some text => .ok text
        | none => .error .notText

end FileTree

end FromClause
