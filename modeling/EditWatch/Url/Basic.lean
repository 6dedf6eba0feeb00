import EditWatch.Text.Blank

/-!
# EditWatch.Url.Basic -- addresses

Of an address only the scheme and the segments of the path are kept; its other parts are checked
when it is read and then forgotten.
-/

namespace EditWatch

/-- What the scheme of an address demands. Web addresses always have a host, and in them and in
file addresses a backslash separates path segments like a slash. -/
inductive Scheme where
  | web (name : String)
  | file
  | other (name : String)
  deriving Repr, DecidableEq

/-- An address. There are no segments if the path does not begin with a slash. -/
structure Url where
  scheme : Scheme
  segments : Option (List String)
  deriving Repr, DecidableEq

namespace Scheme

/-- The scheme of a name in lower case. -/
def ofName (name : String) : Scheme :=
  if name = "file" then .file
  else if name ∈ ["http", "https", "ws", "wss", "ftp"] then .web name
  else .other name

/-- Whether a backslash counts as a slash. -/
def isSpecial : Scheme → Bool
  | .other _ => false
  | _ => true

/-- Whether the character separates path segments. -/
def isSlash (s : Scheme) (c : Char) : Bool := c == '/' || (c == '\\' && s.isSpecial)

/-- Whether the character ends the part with the host. -/
def endsAuthority (s : Scheme) (c : Char) : Bool := s.isSlash c || c == '?' || c == '#'

end Scheme

namespace Url

/-- Why a text is no address. -/
inductive Fault where
  | relative
  | emptyHost
  | invalidPort
  | invalidIpv4
  | invalidIpv6
  | invalidDomain
  | invalidHostCharacter
  deriving Repr, DecidableEq

def Fault.message : Fault → String
  | .relative => "relative URL without a base"
  | .emptyHost => "empty host"
  | .invalidPort => "invalid port number"
  | .invalidIpv4 => "invalid IPv4 address"
  | .invalidIpv6 => "invalid IPv6 address"
  | .invalidDomain => "invalid international domain name"
  | .invalidHostCharacter => "invalid domain character"

/-- Whether the character is a letter of ASCII. -/
def isLetter (c : Char) : Bool := ('a' ≤ c && c ≤ 'z') || ('A' ≤ c && c ≤ 'Z')

end Url

end EditWatch
