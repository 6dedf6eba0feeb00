import EditWatch.Stamp
import EditWatch.Url.Reading

/-!
# EditWatch.Url.Page -- the document behind an address

The path of an editor page holds the identity of its document behind a segment `d`. The first
such segment decides; an empty identity is none.
-/

namespace EditWatch.Url

/-- The segment that announces the identity of a document. -/
def identityMark : String := "d"

/-- The segment behind the first mark, unless it is empty. -/
def documentIdIn : List String → Option String
  | [] => none
  | [_] => none
  | seg :: next :: rest =>
    if seg = identityMark then (if next.isEmpty then none else some next)
    else documentIdIn (next :: rest)

/-- The identity of the document at an address. -/
def documentId? (u : Url) : Option String := u.segments.bind documentIdIn

/-- The message for an address that cannot be read. -/
def unreadableMessage (raw : String) (f : Fault) : String :=
  "unparseable document url " ++ raw ++ ": " ++ f.message

end EditWatch.Url

namespace EditWatch.Identity

/-- The identity that an address gives, and a title as it is. -/
def ofPage (url title : Option String) : Identity where
  docId := match url with
    | none => .ok none
    | some raw => match Url.parse raw with
      | .ok u => .ok u.documentId?
      | .error f => .error ⟨Url.unreadableMessage raw f⟩
  title := .ok title

end EditWatch.Identity
