import AiopsSystem.Action.Marshal

/-! # Verification of sealed envelopes

The plan hash is taken over the canonical document without hash and signature,
the signature over the document without its own value. SHA-256, Ed25519 and the
canonicalizer are parameters; keys come from a resolver.
-/

namespace AiopsSystem.Action

open Go

structure KeyRecord where
  publicKey : GoString
  revoked : Bool
  activeAt : Int
  retireAt : Int

structure Cryptography where
  sha256Hex : GoString → GoString
  /-- `ed25519.Verify(publicKey, message, signature)` -/
  ed25519Verify : GoString → GoString → GoString → Bool
  /-- `jsoncanonicalizer.Transform` of the marshalled document. -/
  canonical : Json → Option GoString

inductive VerifyError where
  | resolverRequired
  | envelope (failure : EnvelopeError)
  | expired
  | notActive
  | invalidSignature
  | canonicalization
  | planHashMismatch
  | resolver
  | signingKeyRevoked
  | signingKeyInactive
  | unknownSigningKey
deriving DecidableEq

def publicKeySize : Nat := 32

def canonicalJSON (canonical : Json → Option GoString) (envelope : Envelope) : Option GoString :=
  envelope.document.bind canonical

def calculatePlanHash (crypto : Cryptography) (envelope : Envelope) : Option GoString :=
  (canonicalJSON crypto.canonical { envelope with planHash := [], signature := {} }).map crypto.sha256Hex

def canonicalSigningMessage (canonical : Json → Option GoString) (envelope : Envelope) : Option GoString :=
  canonicalJSON canonical { envelope with signature := { envelope.signature with value := [] } }

def KeyRecord.activeOn (record : KeyRecord) (now : Int) : Bool :=
  (record.activeAt = 0 || record.activeAt ≤ now) && (record.retireAt = 0 || now < record.retireAt)

/-- `Verify`; the tokens of the envelope are validated in the order of `visit`. -/
def verify (crypto : Cryptography) (visit : List Envelope.TokenField) (envelope : Envelope)
    (resolver : Option (GoString → Option KeyRecord)) (now : Int) : Except VerifyError Unit := do
  let resolve ← orFail resolver .resolverRequired
  (envelope.validate visit).mapError .envelope
  require (now < envelope.expiresAt.instant) .expired
  require (envelope.notBefore.instant ≤ now) .notActive
  require (envelope.planHash ≠ [] ∧ envelope.signature ≠ {}) .invalidSignature
  envelope.signature.validateOptional.mapError .envelope
  let expectedHash ← orFail (calculatePlanHash crypto envelope) .canonicalization
  require (equalFold expectedHash envelope.planHash = true) .planHashMismatch
  let record ← orFail (resolve envelope.signature.keyID) .resolver
  require (record.revoked = false) .signingKeyRevoked
  require (record.activeOn now = true) .signingKeyInactive
  require (record.publicKey.length = publicKeySize) .unknownSigningKey
  let message ← orFail (canonicalSigningMessage crypto.canonical envelope) .canonicalization
  let signature ← orFail (rawURLDecode envelope.signature.value) .invalidSignature
  require (crypto.ed25519Verify record.publicKey message signature = true) .invalidSignature

theorem validate_of_verify {crypto : Cryptography} {visit : List Envelope.TokenField} {envelope : Envelope}
    {resolver : Option (GoString → Option KeyRecord)} {now : Int}
    (h : verify crypto visit envelope resolver now = .ok ()) : envelope.validate visit = .ok () := by
  simp only [verify, bind_eq_ok, mapError_eq_ok] at h
  obtain ⟨_, _, _, hValid, _⟩ := h
  exact hValid

end AiopsSystem.Action
