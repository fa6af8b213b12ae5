import ClusterMembership.Text.Pieces
import ClusterMembership.Url.Percent
/-!
# Paths

A path is a list of segments, each written behind a slash. Segments of one or two dots are resolved: one dot is left out,
and two take back the segment before them, unless that is a drive letter. At the end of a path both leave
an empty segment, so that the path ends with a slash.
-/
namespace ClusterMembership.Url.Path

abbrev Segment := List Char

def isLetter (c : Char) : Bool := ('a' ≤ c && c ≤ 'z') || ('A' ≤ c && c ≤ 'Z')

/-- A drive letter: a letter and a colon or a bar. -/
def isDrive : Segment → Bool
  | [a, b] => isLetter a && (b = ':' || b = '|')
  | _ => false

/-- A segment that begins with a drive letter and then ends, or goes on with a backslash. -/
def holdsDrive (s : Segment) : Bool := isDrive (s.take 2) && (s.drop 2).head?.all (· = '\\')

def bareDots : Segment → Segment
  | '%' :: '2' :: 'e' :: s => '.' :: bareDots s
  | '%' :: '2' :: 'E' :: s => '.' :: bareDots s
  | c :: s => c :: bareDots s
  | [] => []

def isDot (s : Segment) : Bool := bareDots s = ['.']

def isDoubleDot (s : Segment) : Bool := bareDots s = ['.', '.']

/-- Takes back the last segment; the last one comes first. -/
def back : List Segment → List Segment
  | [] => []
  | s :: kept => if holdsDrive s then s :: kept else kept

/-- What is kept after one more segment, the last one first. A file's path may begin with a drive letter, which is then
written with a colon. -/
def settle (isFile : Bool) (kept : List Segment) (s : Segment) : List Segment :=
  if isDoubleDot s then back kept
  else if isDot s then kept
  else if isFile && kept.isEmpty && isDrive s then [[s.headD ':', ':']]
  else s :: kept

/-- The segments of a path with the dots resolved, behind those that are kept already, the last one first. -/
def resolve (isFile : Bool) : List Segment → List Segment → List Segment
  | kept, [] => kept.reverse
  | kept, [s] =>
    let all := settle isFile kept s
    (if isDoubleDot s || isDot s then [] :: all else all).reverse
  | kept, s :: rest => resolve isFile (settle isFile kept s) rest

/-- The segments of a path that is given without its first slash. -/
def read (isFile : Bool) (cs : List Char) : List Segment :=
  resolve isFile [] ((Text.pieces '/' cs).map (escape isEscapedInPath))

def text (segments : List Segment) : String := "/" ++ String.intercalate "/" (segments.map String.ofList)

end ClusterMembership.Url.Path
