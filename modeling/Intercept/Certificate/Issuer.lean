import Intercept.Certificate.Cache
import Intercept.Config.Basic

/-!
# Issuing certificates

The transport supplies a generator of certificates. The issuer stands in front of it: it can be
switched off, it keeps certificates unless the configuration says otherwise, and it accepts a
certificate only if it names the host that was asked for.
-/

namespace Intercept

/-- A certificate with its key. -/
structure Certificate where
  domain : String
  certificate : String
  key : String
deriving DecidableEq, Repr

/-- A generator of certificates in front of its cache. -/
structure Issuer (γ : Type) where
  config : TlsConfig
  generator : String → γ → Generated Certificate × γ
  state : γ
  /-- None if no certificates are kept. -/
  cache : Option (CertCache Certificate)

namespace Issuer

variable {γ : Type}

/-- Set up an issuer. That certificates are switched off is reported. -/
def ofGenerator (config : TlsConfig) (generator : String → γ → Generated Certificate × γ)
    (state : γ) : Issuer γ × List Signal :=
  let cache :=
    if config.disableCertStore then none
    else some (CertCache.ofCapacity config.certCacheCapacity.toNat)
  ({ config, generator, state, cache }, if config.enabled then [] else [.notice .tlsDisabled])

/-- Have a certificate generated, and check that it names the host. -/
def generate (generator : String → γ → Generated Certificate × γ) (host : String) (state : γ) :
    Generated Certificate × γ :=
  match generator host state with
  | (.made c, state) =>
    if c.domain = host then (.made c, state)
    else
      (.refused (.certificate
        s!"generator returned a certificate for {c.domain} when asked for {host}"), state)
  | answer => answer

/-- The certificate of a host. -/
def certificateFor (i : Issuer γ) (host : String) :
    Generated Certificate × Issuer γ × List Signal :=
  if !i.config.enabled then
    (.refused (.certificate "TLS interception is disabled"), i, [])
  else
    match i.cache with
    | some cache =>
      let f := cache.fetch host (generate i.generator host) i.state
      (f.result, { i with cache := some f.cache, state := f.state }, f.signals)
    | none =>
      let (result, state) := generate i.generator host i.state
      (result, { i with state }, [])

/-- The number of cached hosts. -/
def cachedHosts (i : Issuer γ) : Nat := (i.cache.map (·.size)).getD 0

/-- How many requests the cache has answered. -/
def hits (i : Issuer γ) : Nat := (i.cache.map (·.hits)).getD 0

/-- How many requests the cache could not answer. -/
def misses (i : Issuer γ) : Nat := (i.cache.map (·.misses)).getD 0

/-- The diagnostic text of an issuer. -/
def debug (i : Issuer γ) : String :=
  "TlsHandler \x7b config: TlsConfig \x7b enabled: " ++ toString i.config.enabled
    ++ ", cert_cache_capacity: " ++ toString i.config.certCacheCapacity.toNat
    ++ ", disable_cert_store: " ++ toString i.config.disableCertStore
    ++ " \x7d, cached_hosts: " ++ toString i.cachedHosts ++ ", .. \x7d"

end Issuer

end Intercept
