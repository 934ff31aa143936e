import Intercept.Document.Parser
import Intercept.Document.Payload
import Intercept.Module.Script

/-!
# Reading scripts

A script as a document is a list of objects. One object may name several actions, which are then
performed in a fixed order: conditions first, then a failure, then changes of the payload, then
registrations, and the traces of context and note last. A hook on a listener that does not exist is
left out. Missing settings of an action are empty, zero or false.
-/

namespace Intercept.Script

/-- A field that is given and not null. -/
def given? (d : Document) (name : String) : Option Document :=
  match d.field? name with
  | some .null => none
  | v => v

/-- A text setting. -/
def textAt (d : Document) (name : String) : String :=
  match d.field? name with
  | some (.string s) => s
  | _ => ""

/-- A number setting. -/
def wordAt (d : Document) (name : String) : UInt64 :=
  match d.field? name with
  | some (.number (.natural n)) => n
  | _ => 0

/-- A signed number setting. -/
def integerAt (d : Document) (name : String) : Int :=
  match d.field? name with
  | some (.number (.natural n)) => n.toNat
  | some (.number (.negative m)) => -m.toNat
  | _ => 0

/-- A flag. -/
def flagAt (d : Document) (name : String) : Bool :=
  match d.field? name with
  | some (.bool b) => b
  | _ => false

/-- A list. -/
def listAt (d : Document) (name : String) : List Document :=
  match d.field? name with
  | some (.array n item) => (List.finRange n).map item
  | _ => []

/-- Bytes; none at all if they are not given. -/
def bytesAt (d : Document) (name : String) : ByteArray :=
  ((d.field? name).bind Payload.ofDocument?).getD ByteArray.empty

/-- The position that an action refers to. -/
def positionAt (d : Document) : Option Nat := (given? d "nth").map fun _ => (wordAt d "nth").toNat

/-- The failure that an object asks for. -/
def faultAt? (d : Document) : Option Fault :=
  (given? d "panic").map fun _ => if textAt d "as" = "other" then .untyped else .text (textAt d "panic")

/-- An action for a field, if the field is given. -/
def whenGiven (d : Document) (name : String) (action : Document → Action) : List Action :=
  (given? d name).toList.map action

/-- An action for a flag, if it is set. -/
def whenSet (d : Document) (name : String) (action : Action) : List Action :=
  if flagAt d name then [action] else []

/-- What a script is run for. It settles which actions its objects may name: conditions on the
context belong to init functions, work on the payload to packet handlers, and a context that is used
later can neither fail nor end early. -/
inductive Role where
  | init
  | handler
  | shutdown
  | later
deriving DecidableEq, Repr

/-- Whether a role admits an action. -/
def Role.admits : Role → Action → Bool
  | .init, .onlyUid _ | .init, .onlyNth _ => true
  | _, .onlyUid _ | _, .onlyNth _ => false
  | r, .fail _ => r ≠ .later
  | r, .onlyOp _ | r, .append _ | r, .prepend _ | r, .set _ | r, .appendOp | r, .record
  | r, .get _ => r = .handler
  | _, _ => true

/-- Whether an action can be performed with these listeners. -/
def Action.isPossible (listeners : List String) : Action → Bool
  | .pathHook _ _ listener _ => listeners.contains listener
  | _ => true

/-- All actions that one object names, in order, for scripts nested at most `depth` deep. -/
def namedActions (listeners : List String) : Nat → Document → List Action
  | 0, _ => []
  | depth + 1, d =>
    let body (role : Role) (inner : Document) : List Action :=
      ((listAt inner "do").flatMap (namedActions listeners depth)).filter fun a =>
        role.admits a && a.isPossible listeners
    whenGiven d "only_uid" (fun _ => .onlyUid (wordAt d "only_uid"))
    ++ whenGiven d "only_nth" (fun _ => .onlyNth (wordAt d "only_nth").toNat)
    ++ whenGiven d "only" (fun _ => .onlyOp (textAt d "only"))
    ++ (faultAt? d).toList.map .fail
    ++ whenGiven d "append" (fun _ => .append (bytesAt d "append"))
    ++ whenGiven d "prepend" (fun _ => .prepend (bytesAt d "prepend"))
    ++ whenGiven d "set" (fun _ => .set (bytesAt d "set"))
    ++ whenSet d "append_op" .appendOp
    ++ whenSet d "record" .record
    ++ whenGiven d "get" (fun _ => .get (textAt d "get"))
    ++ whenGiven d "unhook" (fun _ => .unhook (textAt d "unhook") (positionAt d))
    ++ whenGiven d "unhook_state" (fun _ => .unhookPath (textAt d "unhook_state") (positionAt d))
    ++ whenGiven d "hook" (fun h =>
        .hook (textAt h "id") (textAt h "target") (Int32.ofInt (integerAt h "priority"))
          (body .handler h))
    ++ whenGiven d "state_hook" (fun h =>
        .pathHook (textAt h "id") (textAt h "path") (textAt h "chan") (flagAt h "payload"))
    ++ whenGiven d "on_shutdown" (fun s =>
        .onShutdown ((s.field? "note").getD .null) (body .shutdown s))
    ++ whenSet d "info" .info
    ++ whenGiven d "note" .note

/-- Read one object of a script that is run for a purpose. -/
def readActions (listeners : List String) (role : Role) (d : Document) : List Action :=
  (namedActions listeners Document.maxDepth d).filter fun a =>
    role.admits a && a.isPossible listeners

/-- Read a scripted module. -/
def readModule (listeners : List String) (d : Document) : ModuleDescriptor Memory :=
  module (textAt d "name") ((listAt d "init").flatMap (readActions listeners .init))

/-- Read a scripted start callback. -/
def readStart (d : Document) : Program Memory :=
  startCallback ((d.field? "note").getD .null) (faultAt? d)

end Intercept.Script
