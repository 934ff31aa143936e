import Intercept.Http.Uri

/-!
# HTTP messages

Requests and responses as the transport has read them, with their bodies in one piece. Header names
have no case and are written in lower case. A name may have several values, and their order counts.
-/

namespace Intercept.Http

/-- Header names with their values. -/
abbrev Headers := List (String × ByteArray)

namespace Headers

/-- The values of a header in their order. -/
def values (h : Headers) (name : String) : List ByteArray :=
  (h.filter fun e => e.1 = name).map (·.2)

/-- Bytes as text, if they are all visible ASCII characters, blanks or tabs. -/
def visibleText? (value : ByteArray) : Option String :=
  if value.toList.all fun b => b = 9 || (32 ≤ b && b < 127) then
    some (String.ofList (value.toList.map fun b => Char.ofNat b.toNat))
  else none

/-- The text of the first value of a header, in any case of its name. -/
def text? (h : Headers) (name : String) : Option String :=
  ((h.values (String.ofList (name.toList.map Char.toLower))).head?).bind visibleText?

/-- Whether a header tells how the body is framed. A body that is sent on in one piece gets a
length of its own. -/
def isFraming (name : String) : Bool := name = "content-length" || name = "transfer-encoding"

/-- The headers that are passed on. -/
def forwardable (h : Headers) : Headers := h.filter fun e => !isFraming e.1

/-- The framing headers are not passed on. -/
theorem values_forwardable_of_isFraming {h : Headers} {name : String} (hn : isFraming name = true) :
    h.forwardable.values name = [] := by
  simp only [values, forwardable, List.filter_filter, List.map_eq_nil_iff,
    List.filter_eq_nil_iff]
  intro e _ he
  simp only [Bool.and_eq_true, decide_eq_true_eq, Bool.not_eq_true'] at he
  exact absurd hn (by simp [← he.1, he.2])

/-- All other headers keep their values. -/
theorem values_forwardable {h : Headers} {name : String} (hn : isFraming name = false) :
    h.forwardable.values name = h.values name := by
  simp only [values, forwardable, List.filter_filter]
  congr 1
  apply List.filter_congr
  intro e _
  by_cases he : e.1 = name
  · simp [he, hn]
  · simp [he]

end Headers

/-- A request from a client. -/
structure ClientRequest where
  method : String
  uri : Uri
  headers : Headers := []
  /-- The body, unless it ends early or is framed wrongly. -/
  body : Option ByteArray

/-- A request to an origin server. -/
structure OriginRequest where
  method : String
  uri : Uri
  headers : Headers
  body : ByteArray

/-- A response, from an origin server or to a client. -/
structure Response where
  status : Nat
  headers : Headers := []
  body : ByteArray := ByteArray.empty

/-- How the attempt to get a response from an origin server ends. -/
inductive OriginAnswer where
  | answered (r : Response)
  /-- There is no connection, or no response on it. -/
  | unreachable
  /-- There is a response, but its body ends early or is framed wrongly. -/
  | brokenOff

/-- What a client gets. -/
inductive Reply where
  | answered (r : Response)
  /-- The connection ends without a response. -/
  | closed

/-- A response without headers and body. -/
def Reply.ofStatus (status : Nat) : Reply := .answered { status }

end Intercept.Http
