import EditWatch.Url.Host
import EditWatch.Url.Path

/-!
# EditWatch.Url.Reading -- addresses out of text

White space and controls around an address do not count, nor do tabs and line ends within it. It
has to begin with a scheme, for there is nothing that a relative address could refer to.
-/

namespace EditWatch.Url

/-- A control character of ASCII or a space. -/
def isEdge (c : Char) : Bool := c.toNat ≤ 0x20

/-- The characters of an address that count. -/
def significant (raw : String) : List Char :=
  let cs := (raw.toList.dropWhile isEdge).reverse.dropWhile isEdge
  cs.reverse.filter fun c => c != '\t' && c != '\n' && c != '\r'

/-- A character of a scheme behind the first. -/
def isSchemeChar (c : Char) : Bool :=
  isLetter c || c.isDigit || c == '+' || c == '-' || c == '.'

/-- The scheme and what follows its colon. -/
def splitScheme? (cs : List Char) : Option (Scheme × List Char) :=
  let name := cs.takeWhile isSchemeChar
  if cs.head?.any isLetter then
    match cs.dropWhile isSchemeChar with
    | ':' :: rest => some (.ofName (String.ofList (name.map Char.toLower)), rest)
    | _ => none
  else none

/-- The path up to a query or a fragment. -/
def pathPart (cs : List Char) : List Char := cs.takeWhile fun c => c != '?' && c != '#'

/-- The address with a path. -/
def withSegments (s : Scheme) (segs : List (List Char)) : Url :=
  ⟨s, some (segs.map String.ofList)⟩

/-! ## Host and port -/

/-- The text before the colon that ends a host and the text from this colon on. Colons between
brackets belong to the host. -/
def splitHost (inside : Bool) : List Char → List Char × List Char
  | [] => ([], [])
  | c :: cs =>
    if c == ':' && !inside then ([], c :: cs)
    else
      let inside := if c == '[' then true else if c == ']' then false else inside
      let (host, rest) := splitHost inside cs
      (c :: host, rest)

/-- The text behind the last at sign, and the text before it if there is one. -/
def splitUser (cs : List Char) : Option (List Char) × List Char :=
  let host := (cs.reverse.takeWhile (· ≠ '@')).reverse
  if host.length = cs.length then (none, cs)
  else (some (cs.take (cs.length - host.length - 1)), host)

/-- Whether a text names a user: a lone colon does not. -/
def namesUser (user : Option (List Char)) : Bool :=
  match user with
  | none | some [] | some [':'] => false
  | some _ => true

/-- What is wrong with a port. -/
def portFault? (cs : List Char) : Option Fault :=
  if cs.all Char.isDigit && Text.decimalValue cs < 0x10000 then none else some .invalidPort

/-- The port at the head of a text that begins with a colon, and what follows it: a backslash
ends a port in every address. -/
def splitPort (cs : List Char) : List Char × List Char :=
  match cs with
  | ':' :: rest => (rest.takeWhile (· ≠ '\\'), rest.dropWhile (· ≠ '\\'))
  | cs => ([], cs)

/-- What is wrong with the host and port; `more` tells whether anything follows them. -/
def authorityFault? (s : Scheme) (cs : List Char) (more : Bool) : Option Fault :=
  let (user, place) := splitUser cs
  let (host, rest) := splitHost false place
  if user = some [] ∧ place.isEmpty ∧ more then some .emptyHost
  else if host.isEmpty then
    if s.isSpecial || !rest.isEmpty || namesUser user then some .emptyHost else none
  else (if s.isSpecial then Host.nameFault? host else Host.plainFault? host).or
    (portFault? (splitPort rest).1)

/-- The address whose host is at the head of the text. -/
def readAuthority (s : Scheme) (cs : List Char) : Except Fault Url :=
  let here := cs.takeWhile fun c => !s.endsAuthority c
  let rest := cs.dropWhile fun c => !s.endsAuthority c
  match authorityFault? s here (!rest.isEmpty) with
  | some f => .error f
  | none =>
    let path := pathPart ((splitPort (splitHost false (splitUser here).2).2).2 ++ rest)
    match path with
    | [] => .ok (if s.isSpecial then withSegments s [[]] else ⟨s, none⟩)
    | c :: cs => .ok (withSegments s (Path.segments s (if s.isSlash c then cs else c :: cs)))

/-! ## Files -/

/-- The address of a file behind two slashes, where a host may stand. -/
def readFileHost (cs : List Char) : Except Fault Url :=
  let host := cs.takeWhile fun c => !Scheme.file.endsAuthority c
  if Path.isDriveLetter host then .ok (withSegments .file (Path.fileSegments (pathPart cs)))
  else
    match if host.isEmpty then none else Host.nameFault? host with
    | some f => .error f
    | none =>
      let rest := cs.dropWhile fun c => !Scheme.file.endsAuthority c
      .ok (withSegments .file (Path.fileSegments (pathPart rest)))

/-- The address of a file. -/
def readFile (cs : List Char) : Except Fault Url :=
  match cs with
  | a :: b :: rest =>
    if Scheme.file.isSlash a && Scheme.file.isSlash b then readFileHost rest
    else .ok (withSegments .file (Path.fileSegments (pathPart cs)))
  | cs => .ok (withSegments .file (Path.fileSegments (pathPart cs)))

/-! ## Addresses -/

/-- The address that a text spells. -/
def parse (raw : String) : Except Fault Url :=
  match splitScheme? (significant raw) with
  | none => .error .relative
  | some (.file, rest) => readFile rest
  | some (.web name, rest) =>
    readAuthority (.web name) (rest.dropWhile (Scheme.web name).isSlash)
  | some (.other name, rest) =>
    match rest with
    | '/' :: '/' :: rest => readAuthority (.other name) rest
    | '/' :: rest => .ok (withSegments (.other name) (Path.segments (.other name) (pathPart rest)))
    | _ => .ok ⟨.other name, none⟩

end EditWatch.Url
