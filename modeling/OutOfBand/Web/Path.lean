import OutOfBand.Text.Ascii
import OutOfBand.Text.Blank
import OutOfBand.Web.Percent

/-!
# Paths

The path of a URL is a list of segments. Segments of one and two points mean the directory itself
and the one above, and are resolved; a segment that is a drive letter is never left that way. In the
paths of files a drive letter at the start is written with a colon, and empty segments at the start
do not count.
-/

namespace OutOfBand.Web.Path

/-- The kinds of paths, which differ in what separates segments and in what drive letters mean. -/
inductive Kind where
  /-- The path of a resource on the web. -/
  | web
  /-- The path of a file. -/
  | file
  /-- The path under a scheme of which nothing is known. -/
  | other
  deriving DecidableEq, Repr, Inhabited

/-- Whether a character separates the segments of a path. -/
def isSlash (kind : Kind) (c : Char) : Bool := c == '/' || (kind != .other && c == '\\')

/-- What may not stand in a segment. -/
def extra : List Char := [' ', '"', '#', '<', '>', '?', Char.ofNat 0x60, '\x7b', '\x7d']

/-- Whether a segment means the directory itself. -/
def isHere (segment : String) : Bool := [".", "%2e"].contains (Text.lower segment)

/-- Whether a segment means the directory above. -/
def isAbove (segment : String) : Bool :=
  ["..", ".%2e", "%2e.", "%2e%2e"].contains (Text.lower segment)

/-- The letter of a drive letter, which is followed by a colon or a bar. -/
def drive? : List Char → Option Char
  | [c, d] => if c.isAlpha && (d == ':' || d == '|') then some c else none
  | _ => none

/-- Whether a segment is a drive letter. -/
def isDrive (segment : String) : Bool := (drive? segment.toList).isSome

/-- A segment as it stands in a path at the given place. -/
def normal (kind : Kind) (first : Bool) (segment : String) : String :=
  match drive? segment.toList with
  | some c => if kind == .file && first then String.ofList [c, ':'] else segment
  | none => segment

/-- The directory above the one that the segments lead to, the last of which comes first. -/
def above : List String → List String
  | [] => []
  | segment :: before => if isDrive segment then segment :: before else before

/-- The segments with those that mean directories resolved, after the segments `kept`, the last of
which comes first. -/
def resolved (kind : Kind) (kept : List String) : List String → List String
  | [] => kept.reverse
  | segment :: rest =>
    let isDirectory := isHere segment || isAbove segment
    let kept := if isAbove segment then above kept else kept
    if isDirectory then resolved kind (if rest.isEmpty then "" :: kept else kept) rest
    else resolved kind (normal kind kept.isEmpty segment :: kept) rest

/-- The segments of the path that follows the first slash. -/
def segments (kind : Kind) (cs : List Char) : List String :=
  resolved kind [] ((Text.splitAt (isSlash kind) cs).map fun s => String.ofList (encoded extra s))

def text (kind : Kind) (segments : List String) : String :=
  let segments := if kind == .file then segments.dropWhile (·.isEmpty) else segments
  "/" ++ String.intercalate "/" segments

end OutOfBand.Web.Path
