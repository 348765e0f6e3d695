namespace SnpGuest

/-!
# Paths

A path is a text whose pieces stand between slashes.  Two readings of it matter here.  Whoever walks
along it takes every piece in turn.  Whoever asks for the directory above it drops the pieces that
say nothing: empty ones, and single dots other than one at the very start.
-/

namespace Path

/-- The pieces between slashes, one more than there are slashes. -/
def splitSlash : List Char → List (List Char)
  | [] => [[]]
  | c :: rest =>
    if c = '/' then [] :: splitSlash rest
    else
      match splitSlash rest with
      | [] => [[c]]
      | piece :: pieces => (c :: piece) :: pieces

def pieces (path : String) : List String :=
  (splitSlash path.toList).map String.ofList

def isAbsolute (path : String) : Bool :=
  path.toList.head? = some '/'

/-- Whether a piece leaves a walk where it is. -/
def isIdle (piece : String) : Bool :=
  piece = "" || piece = "."

/-- The pieces that name a step, with a dot at the start of a relative path. -/
def components (path : String) : List String :=
  match pieces path with
  | "." :: rest => "." :: rest.filter fun piece => !isIdle piece
  | all => all.filter fun piece => !isIdle piece

/-- The path with the given components. -/
def render (absolute : Bool) (components : List String) : String :=
  (if absolute then "/" else "") ++ "/".intercalate components

/-- The proper beginnings of a list, the longest first, without the empty one. -/
def beginnings : List String → List (List String)
  | [] => []
  | first :: rest =>
    match rest with
    | [] => []
    | _ :: _ => (beginnings rest).map (first :: ·) ++ [[first]]

/-- A path and the directories above it that it names, the nearest first. -/
def ancestors (path : String) : List String :=
  path :: (beginnings (components path)).map (render (isAbsolute path))

/-- The path of a name inside a directory. -/
def join (directory name : String) : String :=
  if directory.toList.getLast? = some '/' then directory ++ name
  else directory ++ "/" ++ name

end Path

end SnpGuest
