import IdentityFederation.Framework.Json

/-!
# HTTP messages

What the agent and the federation service exchange.  A body is kept as the document it is the
text of, or as text that is no JSON document, so reading a body back is reading the document.
-/

namespace IdentityFederation

inductive Body where
  | json (document : Json)
  /-- Text that is not a JSON document. -/
  | text (s : String)

structure HttpResponse where
  status : ℕ
  body : Body

/-- A `POST` as the service receives it. -/
structure HttpRequest where
  /-- The value of the `Authorization` header. -/
  authorization : Option String
  body : Body

/-! ## Header values -/

/-- `HeaderValue::to_str` succeeds on these characters only. -/
def isVisibleAscii (c : Char) : Bool :=
  (0x20 ≤ c.toNat && c.toNat < 0x7f) || c = '\t'

/-- A header value must not contain control characters. -/
def isHeaderChar (c : Char) : Bool :=
  (0x20 ≤ c.toNat && c.toNat ≠ 0x7f) || c = '\t'

/-- The text of a header value, if it has one. -/
def headerText (value : String) : Option String :=
  if value.toList.all isVisibleAscii then some value else none

end IdentityFederation
