import Intercept.Module.Program

/-!
# The certificate cache

Generating a certificate is expensive, and a client talks to few hosts. The cache keeps the
certificates of the hosts that were asked for most recently. What is not there is generated; only
successes are kept, and when there is no room the host whose last success is longest ago makes room.

A generator is a function with a state of its own, which changes with every call.
-/

namespace Intercept

/-- How a generator answered. -/
inductive Generated (α : Type) where
  | made (value : α)
  | refused (error : EngineError)
  /-- The generator failed instead of answering. -/
  | failed (fault : Fault)

/-- The cached certificates of hosts. -/
structure CertCache (α : Type) where
  /-- How many hosts are kept, at least one. -/
  capacity : Nat
  /-- The hosts with their certificates, the most recently used one first. -/
  entries : List (String × α) := []
  hits : Nat := 0
  misses : Nat := 0

/-- The answer to a request for a certificate: what became of it, the cache, the generator's state,
and what is reported. -/
structure Fetched (α γ : Type) where
  result : Generated α
  cache : CertCache α
  state : γ
  signals : List Signal

namespace CertCache

variable {α γ : Type}

/-- An empty cache. -/
def ofCapacity (capacity : Nat) : CertCache α := { capacity := max capacity 1 }

/-- The certificate of a host. Looking does not count as use. -/
def find? (c : CertCache α) (host : String) : Option α :=
  (c.entries.find? fun e => e.1 = host).map (·.2)

/-- Whether a host is cached. -/
def contains (c : CertCache α) (host : String) : Bool := (c.find? host).isSome

/-- The number of cached hosts. -/
def size (c : CertCache α) : Nat := c.entries.length

/-- Make a cached host the most recently used one. -/
def promote (c : CertCache α) (host : String) (value : α) : CertCache α :=
  { c with entries := (host, value) :: c.entries.filter fun e => e.1 ≠ host }

/-- The host that has to go before another one is added. -/
def victim? (c : CertCache α) : Option String :=
  if c.capacity ≤ c.size then c.entries.getLast?.map (·.1) else none

/-- Add a host that is not cached. -/
def add (c : CertCache α) (host : String) (value : α) : CertCache α :=
  { c with entries := ((host, value) :: c.entries).take c.capacity }

/-- The certificate of a host, from the cache or else from the generator. -/
def fetch (c : CertCache α) (host : String) (generate : γ → Generated α × γ) (state : γ) :
    Fetched α γ :=
  match c.find? host with
  | some value =>
    { result := .made value
      cache := { c.promote host value with hits := c.hits + 1 }
      state
      signals := [.count .certificateHits 1] }
  | none =>
    let c := { c with misses := c.misses + 1 }
    let missed : List Signal := [.count .certificateMisses 1]
    match generate state with
    | (.made value, state) =>
      let evicted := c.victim?.toList.map fun h => Signal.notice (.certificateEvicted h)
      { result := .made value, cache := c.add host value, state, signals := missed ++ evicted }
    | (.refused e, state) =>
      { result := .refused e, cache := c, state
        signals := missed ++ [.notice (.certificateFailed host e)] }
    | (.failed fault, state) => { result := .failed fault, cache := c, state, signals := missed }

end CertCache

end Intercept
