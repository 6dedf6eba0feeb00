import EditWatch.Text.Percent
import EditWatch.Url.Basic

/-!
# EditWatch.Url.Path -- path segments

The segments of a path are what stands between its slashes, in percent encoding. A segment of one
dot is left out and one of two dots takes the segment before it away; either leaves an empty
segment behind when it is the last. A drive letter is never taken away.
-/

namespace EditWatch.Url.Path

open EditWatch.Text

/-- The characters that do not stand for themselves in a path. -/
def isEncoded (c : Char) : Bool :=
  c.toNat < 0x20 || c.toNat ≥ 0x7F ||
    [' ', '"', '#', '<', '>', '?', '\x60', '\x7b', '\x7d'].contains c

/-- The spellings of a dot. -/
def dots : List (List Char) := [['.'], ['%', '2', 'e'], ['%', '2', 'E']]

/-- One dot, in any spelling. -/
def isDot (seg : List Char) : Bool := dots.contains seg

/-- Two dots, in any spelling. -/
def isDotDot (seg : List Char) : Bool := dots.any fun a => dots.any fun b => seg == a ++ b

/-- A letter with a colon or a bar. -/
def isDriveLetter : List Char → Bool
  | [c, d] => isLetter c && (d == ':' || d == '|')
  | _ => false

/-- A segment behind others. In a file address the bar of a drive letter that comes first becomes
a colon. -/
def settle (s : Scheme) (done : List (List Char)) (seg : List Char) : List Char :=
  match s, done, seg with
  | .file, [], [c, d] => if isDriveLetter [c, d] then [c, ':'] else seg
  | _, _, _ => seg

/-- A drive letter, alone or in front of a backslash. -/
def namesDrive : List Char → Bool
  | [c, d] => isDriveLetter [c, d]
  | c :: d :: '\\' :: _ => isDriveLetter [c, d]
  | _ => false

/-- The segments, the last one first, without the last unless that names a drive. -/
def dropLast : List (List Char) → List (List Char)
  | [] => []
  | seg :: done => if namesDrive seg then seg :: done else done

/-- The segments of a path; `done` holds the ones before, the last one first. -/
def resolve (s : Scheme) (done : List (List Char)) : List (List Char) → List (List Char)
  | [] => done.reverse
  | raw :: rest =>
    let seg := percentEncode isEncoded raw
    let next :=
      if isDotDot seg then dropLast done
      else if isDot seg then done
      else settle s done seg :: done
    if rest.isEmpty && (isDotDot seg || isDot seg) then ([] :: next).reverse
    else resolve s next rest

/-- The segments of a path whose first slash is gone. -/
def segments (s : Scheme) (path : List Char) : List (List Char) :=
  resolve s [] (pieces s.isSlash path)

/-- The segments of the path of a file, with or without its first slash: those that are empty at
its head do not count. -/
def fileSegments (path : List Char) : List (List Char) :=
  let path := if path.head?.any Scheme.file.isSlash then path.tail else path
  match (segments .file path).dropWhile List.isEmpty with
  | [] => [[]]
  | segs => segs

end EditWatch.Url.Path
