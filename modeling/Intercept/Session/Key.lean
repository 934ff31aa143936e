import Intercept.Document.Parser
import Intercept.Document.Printer
import Intercept.Text.Quoted

/-!
# Session identities

A session belongs to one user of one region. Its identity is printed as the region and the user id
with an underscore between them; the same pair is also read and written as a document.
-/

namespace Intercept

/-- The identity of a session. -/
structure SessionKey where
  region : String
  uid : UInt64
deriving DecidableEq, Repr

namespace SessionKey

/-- The printed identity. -/
def display (k : SessionKey) : String := k.region ++ "_" ++ toString k.uid.toNat

/-- The diagnostic text. -/
def debug (k : SessionKey) : String :=
  "SessionKey \x7b region: " ++ Text.quoted k.region ++ ", uid: " ++ toString k.uid.toNat ++ " \x7d"

/-- The text of the identity as a document, region first. -/
def write (k : SessionKey) : String :=
  "\x7b\"region\":" ++ Document.quote k.region ++ ",\"uid\":" ++ toString k.uid.toNat ++ "\x7d"

/-- An identity from its two parts. -/
def ofParts? : Document → Document → Option SessionKey
  | .string region, .number (.natural uid) => some ⟨region, uid⟩
  | _, _ => none

/-- The only value among some fields under a name; a repetition is refused. -/
def single? (fields : List (String × Document)) (name : String) : Option Document :=
  match fields.filter fun e => e.1 = name with
  | [e] => some e.2
  | _ => none

/-- Read an identity: an object with a region and a uid, each once, or a list of the two. -/
def read? (s : String) : Option SessionKey :=
  match Document.parseFields? s with
  | some fields => do ofParts? (← single? fields "region") (← single? fields "uid")
  | none =>
    match Document.parse? s with
    | some d@(.array 2 _) => do ofParts? (← d.item? 0) (← d.item? 1)
    | _ => none

end SessionKey

end Intercept
