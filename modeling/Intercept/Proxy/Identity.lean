import Intercept.Document.Parser
import Intercept.Document.Printer
import Intercept.Notice
import Intercept.Text.Numeral

/-!
# User ids

A request names its user by a header, and a login by its body: the field `uid` of a document, as an
integer or as a text. Both texts are numerals of 64 bits, so a user has the same id in either place.
-/

namespace Intercept

/-- The user id that a document gives, if it is numeric. -/
def bodyUid? (body : Document) : Option UInt64 :=
  match body.field? "uid" with
  | some (.string s) => Numeral.readWord? s
  | some (.number (.natural n)) => some n
  | _ => none

/-- The user id in the body of a login. A body without one is reported. -/
def loginUid (body : ByteArray) : Option UInt64 × List Signal :=
  match Document.parseBytes? body with
  | none => (none, [.notice .loginMalformed])
  | some d =>
    match bodyUid? d with
    | none => (none, [.notice (.loginWithoutUid d.render)])
    | some uid => (some uid, [])

/-- What a request says about its user. -/
inductive Identity where
  /-- The header names a user. -/
  | known (uid : UInt64)
  /-- There is a header that is no number. -/
  | garbled (text : String)
  /-- There is no header, or an empty one. -/
  | anonymous
deriving DecidableEq, Repr

/-- The identity that a header gives. -/
def Identity.ofHeader (uid : Option String) : Identity :=
  match uid with
  | none => anonymous
  | some s =>
    if s = "" then anonymous
    else
      match Numeral.readWord? s with
      | some n => known n
      | none => garbled s

end Intercept
