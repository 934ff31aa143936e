import Intercept.Session.Start

/-!
# Dispatching packets and ending sessions

A packet is first taken in by the store, unchanged. Then it passes through its hooks: those on every
operation, then those on its own operation, each group by descending priority. Which hooks these are
is settled before the first of them runs. Every hook receives what the one before it returned, be it
empty, and a hook that fails is skipped: the next one receives what the failing one received.

When a session ends, each of its modules has its shutdown callback taken and run.
-/

namespace Intercept.Engine

variable {σ : Type}

/-- Let the store of a session take in a packet. -/
def ingest (e : Engine σ) (n : Nat) (op : String) (payload : ByteArray) : Engine σ :=
  match e.session? n with
  | none => e
  | some s =>
    let (store, listeners, signals) := s.store.ingest e.listeners op payload
    ({ e with listeners }.updateSession n fun s => { s with store }).emit signals

/-- Pass a packet through one hook. -/
def runHook (key : SessionKey) (op : String) (exchange : PacketMeta)
    (e : Engine σ × ByteArray) (h : Hook (Packet → Program σ)) : Engine σ × ByteArray :=
  let (e, payload) := e
  match e.run (h.handler { op, payload, exchange }) with
  | (e, .finished output) => (e, output)
  | (e, .failed fault) =>
    (e.emit [.notice (.hookFault h.module op key.display fault.message), .count .hookFaults 1],
      payload)

/-- Dispatch a packet of a session. -/
def dispatch (e : Engine σ) (n : Nat) (op : String) (payload : ByteArray) (exchange : PacketMeta) :
    Engine σ × ByteArray :=
  let e := e.ingest n op payload
  match e.session? n with
  | none => (e, payload)
  | some s => (s.table.chainFor op).foldl (runHook s.key op exchange) (e, payload)

/-- Take the shutdown callback of a context, if it has one, and run it. -/
def shutdownModule (n : Nat) (key : SessionKey) (processEnds : Bool) (e : Engine σ) (i : Nat) :
    Engine σ :=
  match e.context? ⟨n, i⟩ with
  | none => e
  | some (_, c) =>
    match c.shutdown with
    | none => e
    | some callback =>
      let e := e.updateSession n fun s =>
        s.updateContext i fun c => { c with shutdown := none }
      match e.run (callback processEnds) with
      | (e, .finished _) => e
      | (e, .failed fault) => e.note (.shutdownFault c.module key.display fault.message)

/-- Run the shutdown callbacks of a session's modules. -/
def shutdown (e : Engine σ) (n : Nat) (processEnds : Bool) : Engine σ :=
  match e.session? n with
  | none => e
  | some s => s.modules.foldl (shutdownModule n s.key processEnds) e

end Intercept.Engine
