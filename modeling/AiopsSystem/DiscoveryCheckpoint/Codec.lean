import AiopsSystem.AssetCatalog.PageCommitter
import AiopsSystem.Go.Sha256

/-! # The checkpoint codec

A checkpoint is sealed under a key derived from a master key and its profile,
with the source, revision and version it belongs to as associated data. The
cryptographic functions are parameters. Every byte string that is derived from,
authenticated or hashed is a framed tuple that starts with the name of its use,
so that it says for which use and which values it was built.
-/

namespace AiopsSystem.DiscoveryCheckpoint

open Go AssetCatalog List

inductive CodecError where
  | invalidInput | unavailable | authentication

/-- HKDF over SHA-256 without salt, AES-GCM with a 12-byte nonce, and the hexadecimal HMAC-SHA-256. -/
structure Primitives (Key : Type) where
  hkdf : GoString → GoString → Key
  gcmSeal : Key → GoString → GoString → GoString → GoString
  gcmOpen : Key → GoString → GoString → GoString → Option GoString
  hmac : Key → GoString → GoString

/-- `keyringState` -/
structure Keyring where
  activeKeyID : GoString
  keys : GoMap GoString GoString
  destroyed : Bool

/-- What `randomNonzeroNonce` can return. -/
structure Nonce where
  bytes : GoString
  size : bytes.length = 12
  nonzero : bytes.all (· == 0) = false

def maxCheckpointCanonicalBytes : Nat := 65507

def isKeyIDByte (b : UInt8) : Bool := isIdentifierByte b || b == 43

def validCheckpointKeyID (value : GoString) : Bool :=
  value.length ≤ 256 && matchesHeadTail isAlphanumeric isKeyIDByte value

/-- `ProfileCode.Valid`; the text screening passes every text of this byte class. -/
def validProfile (value : GoString) : Bool :=
  1 ≤ value.length && value.length ≤ 128 && value.all isKeyIDByte

/-- `framedTupleV1` -/
def framedTuple (fields : List GoString) : GoString := encodeFrames (fields.map some)

/-- `aad.valid`; the two counters are of type `int64`. -/
def valid (aad : CheckpointAAD) : Prop :=
  matchesUUID aad.locator.scope.tenantID = true ∧ matchesUUID aad.locator.scope.workspaceID = true ∧
  matchesUUID aad.locator.sourceID = true ∧ matchesCode 63 aad.providerKind = true ∧
  (0 < aad.checkpointRevision ∧ aad.checkpointRevision < 2 ^ 63) ∧
  matchesHex 64 aad.canonicalRevisionDigest = true ∧ matchesHex 64 aad.sourceDefinitionDigest = true ∧
  validCheckpointKeyID aad.checkpointKeyID = true ∧
  (0 < aad.checkpointVersion ∧ aad.checkpointVersion < 2 ^ 63)

instance (aad : CheckpointAAD) : Decidable (valid aad) := inferInstanceAs (Decidable (_ ∧ _))

def fields (aad : CheckpointAAD) (canonicalDigest definitionDigest : GoString) : List GoString :=
  [aad.locator.scope.tenantID, aad.locator.scope.workspaceID, aad.locator.sourceID, aad.providerKind,
    formatInt aad.checkpointRevision, canonicalDigest, definitionDigest, aad.checkpointKeyID,
    formatInt aad.checkpointVersion]

def framed (aad : CheckpointAAD) (domain : GoString) (trailing : List GoString) : Option GoString := do
  guard (valid aad)
  let canonicalDigest ← hexDecode aad.canonicalRevisionDigest
  guard (canonicalDigest.length = 32)
  let definitionDigest ← hexDecode aad.sourceDefinitionDigest
  guard (definitionDigest.length = 32)
  return framedTuple (domain :: fields aad canonicalDigest definitionDigest ++ trailing)

/-- `aad.bytes` -/
def aadBytes (aad : CheckpointAAD) : Option GoString := framed aad (ascii "asset-source-checkpoint.v1") []

def replayMessage (aad : CheckpointAAD) (checkpoint : GoString) : Option GoString := do
  guard (checkpoint.length ≤ maxCheckpointCanonicalBytes)
  framed aad (ascii "asset-source-checkpoint-replay.v1") [checkpoint]

def aeadKeyInfo (profile : GoString) : Option GoString := do
  guard (validProfile profile = true)
  return framedTuple [ascii "asset-source-checkpoint-aead-key.v1", profile]

/-- `sealed.authenticates` -/
def authenticates (checkpoint : SealedCheckpoint) (aad : CheckpointAAD) : Prop :=
  checkpoint.checkpointKeyID = aad.checkpointKeyID ∧ checkpoint.checkpointVersion = aad.checkpointVersion ∧
  matchesHex 64 checkpoint.checkpointSHA256 = true ∧
  29 ≤ checkpoint.envelope.length ∧ checkpoint.envelope.length ≤ 65536 ∧
  checkpoint.envelope.head? = some 1 ∧ ((checkpoint.envelope.drop 1).take 12).all (· == 0) = false ∧
  hexDecode checkpoint.checkpointSHA256 = hexDecode (sha256Hex checkpoint.envelope)

instance (checkpoint : SealedCheckpoint) (aad : CheckpointAAD) : Decidable (authenticates checkpoint aad) :=
  inferInstanceAs (Decidable (_ ∧ _))

section Calls

variable {Key : Type} (primitives : Primitives Key) (keyring : Keyring) (aad : CheckpointAAD)

def deriveAEADKey (master profile : GoString) : Option Key := do
  guard (master.length = 32)
  return primitives.hkdf master (← aeadKeyInfo profile)

/-- `Seal` under a context that stays live, with the nonce drawn. -/
def sealCheckpoint (checkpoint : Checkpoint) (nonce : Nonce) : Except CodecError SealedCheckpoint := do
  require (valid aad) .invalidInput
  require (validProfile checkpoint.profileCode = true) .invalidInput
  require (keyring.destroyed = false) .unavailable
  require (keyring.activeKeyID = aad.checkpointKeyID) .invalidInput
  let master ← orFail (keyring.keys.get? keyring.activeKeyID) .unavailable
  require (master.length = 32) .unavailable
  let derived ← orFail (deriveAEADKey primitives master checkpoint.profileCode) .unavailable
  let authenticatedData ← orFail (aadBytes aad) .invalidInput
  let envelope := 1 :: nonce.bytes ++
    primitives.gcmSeal derived nonce.bytes checkpoint.canonical authenticatedData
  return ⟨envelope, aad.checkpointKeyID, sha256Hex envelope, aad.checkpointVersion⟩

/-- `Open`, ending in `NewCheckpoint` -/
def openCheckpoint (expectedProfile : GoString) (checkpoint : SealedCheckpoint) : Except CodecError Checkpoint := do
  require (valid aad ∧ validProfile expectedProfile = true ∧ authenticates checkpoint aad) .authentication
  require (keyring.destroyed = false) .unavailable
  let master ← orFail (keyring.keys.get? aad.checkpointKeyID) .authentication
  require (master.length = 32) .authentication
  let derived ← orFail (deriveAEADKey primitives master expectedProfile) .authentication
  let authenticatedData ← orFail (aadBytes aad) .authentication
  let plaintext ← orFail (primitives.gcmOpen derived ((checkpoint.envelope.drop 1).take 12)
    (checkpoint.envelope.drop 13) authenticatedData) .authentication
  require (plaintext.length ≤ maxCheckpointCanonicalBytes) .authentication
  return ⟨expectedProfile, plaintext⟩

def replayIdentity (checkpoint : Checkpoint) : Except CodecError ReplayIdentity := do
  require (valid aad) .invalidInput
  require (validProfile checkpoint.profileCode = true) .invalidInput
  require (keyring.destroyed = false) .unavailable
  let master ← orFail (keyring.keys.get? aad.checkpointKeyID) .authentication
  require (master.length = 32) .authentication
  let replayKey := primitives.hkdf master (ascii "asset-source-checkpoint-replay-key.v1")
  let message ← orFail (replayMessage aad checkpoint.canonical) .invalidInput
  return ⟨aad.checkpointKeyID, primitives.hmac replayKey message⟩

end Calls

/-! ## Framing -/

inductive Framing where
  | associatedData (aad : CheckpointAAD)
  | replay (aad : CheckpointAAD) (checkpoint : GoString)
  | keyDerivation (profile : GoString)

def Framing.bytes : Framing → Option GoString
  | .associatedData aad => aadBytes aad
  | .replay aad checkpoint => replayMessage aad checkpoint
  | .keyDerivation profile => aeadKeyInfo profile

def Framing.domain : Framing → GoString
  | .associatedData _ => ascii "asset-source-checkpoint.v1"
  | .replay _ _ => ascii "asset-source-checkpoint-replay.v1"
  | .keyDerivation _ => ascii "asset-source-checkpoint-aead-key.v1"

variable {aad left right : CheckpointAAD} {domain domain' message : GoString} {trailing trailing' : List GoString}

theorem matchesUUID_length {value : GoString} (h : matchesUUID value) : value.length = 36 := by
  have hLength := splitByte_length 45 value
  unfold matchesUUID at h
  split at h
  · rename_i hParts
    simp only [matchesHex, Bool.and_eq_true, beq_iff_eq] at h
    simp only [hParts, map_cons, map_nil, sum_cons, sum_nil] at hLength
    omega
  · cases h

theorem formatInt_inj {x y : Int} (hx : 0 < x) (hy : 0 < y) (h : formatInt x = formatInt y) : x = y := by
  rw [formatInt, formatInt, if_neg (by omega), if_neg (by omega)] at h
  have hSame := formatNat_inj (by omega) (by omega) h
  omega

theorem formatInt_short {x : Int} (hx : 0 < x ∧ x < 2 ^ 63) : (formatInt x).length < 4294967296 := by
  rw [formatInt, if_neg (by omega)]
  have hLength : (formatNat x.natAbs).length ≤ 19 := formatNat_length (by decide) (by omega)
  omega

theorem hexDecode_digest {text : GoString} (h : matchesHex 64 text) :
    ∃ bytes, hexDecode text = some bytes ∧ bytes.length = 32 ∧ hexEncode bytes = text := by
  simp only [matchesHex, Bool.and_eq_true, beq_iff_eq, all_eq_true] at h
  exact @hexDecode_hex 32 text h.1 h.2

theorem framed_of_valid (h : valid aad) :
    ∃ canonicalDigest definitionDigest, hexEncode canonicalDigest = aad.canonicalRevisionDigest ∧
      hexEncode definitionDigest = aad.sourceDefinitionDigest ∧ Short (fields aad canonicalDigest definitionDigest) ∧
      ∀ domain trailing, framed aad domain trailing =
        some (framedTuple (domain :: fields aad canonicalDigest definitionDigest ++ trailing)) := by
  have hValid := h
  obtain ⟨hTenant, hWorkspace, hSource, hKind, hRevision, hCanonical, hDefinition, hKey, hVersion⟩ := h
  obtain ⟨canonicalDigest, hDecoded, hSize, hEncoded⟩ := hexDecode_digest hCanonical
  obtain ⟨definitionDigest, hDecoded', hSize', hEncoded'⟩ := hexDecode_digest hDefinition
  refine ⟨canonicalDigest, definitionDigest, hEncoded, hEncoded', ?_, ?_⟩
  · simp only [matchesCode, validCheckpointKeyID, Bool.and_eq_true, decide_eq_true_eq] at hKind hKey
    have := formatInt_short hRevision
    have := formatInt_short hVersion
    simp only [Short, fields, forall_mem_cons, matchesUUID_length hTenant, matchesUUID_length hWorkspace,
      matchesUUID_length hSource]
    refine ⟨?_, ?_, ?_, ?_, ?_, ?_, ?_, ?_, ?_, by simp⟩
    all_goals omega
  · intro domain trailing
    simp [framed, guard, hValid, hDecoded, hSize, hDecoded', hSize']

theorem valid_of_framed (h : framed aad domain trailing = some message) : valid aad := by
  by_contra hNot
  simp [framed, guard, hNot] at h

theorem framed_inj (hShort : Short (domain :: trailing)) (hShort' : Short (domain' :: trailing'))
    (h : framed left domain trailing = some message) (h' : framed right domain' trailing' = some message) :
    domain = domain' ∧ left = right ∧ trailing = trailing' := by
  have hLeft := valid_of_framed h
  have hRight := valid_of_framed h'
  obtain ⟨canonical, definition, hCanonical, hDefinition, hFields, hFramed⟩ := framed_of_valid hLeft
  obtain ⟨canonical', definition', hCanonical', hDefinition', hFields', hFramed'⟩ := framed_of_valid hRight
  have hSame : domain :: fields left canonical definition ++ trailing =
      domain' :: fields right canonical' definition' ++ trailing' := by
    refine encodeFrames_inj (hShort.insert hFields) (hShort'.insert hFields') (Option.some.inj ?_)
    exact (hFramed domain trailing).symm.trans (h.trans (h'.symm.trans (hFramed' domain' trailing')))
  simp only [fields, cons_append, nil_append, List.cons.injEq] at hSame
  obtain ⟨hDomain, hTenant, hWorkspace, hSource, hKind, hRevision, rfl, rfl, hKey, hVersion, hTrailing⟩ := hSame
  refine ⟨hDomain, ?_, hTrailing⟩
  obtain ⟨_, _, _, _, hPositive, _, _, _, hCounted⟩ := hLeft
  obtain ⟨_, _, _, _, hPositive', _, _, _, hCounted'⟩ := hRight
  have hRevisions := formatInt_inj hPositive.1 hPositive'.1 hRevision
  have hVersions := formatInt_inj hCounted.1 hCounted'.1 hVersion
  obtain ⟨⟨⟨_, _⟩, _⟩, _⟩ := left
  obtain ⟨⟨⟨_, _⟩, _⟩, _⟩ := right
  simp_all

theorem Framing.domain_short (framing : Framing) (h : Short trailing) : Short (framing.domain :: trailing) := by
  refine forall_mem_cons.mpr ⟨?_, h⟩
  cases framing <;> simp only [domain] <;> decide

theorem short_nil : Short [] := nofun

theorem replayMessage_eq {checkpoint : GoString} (h : replayMessage aad checkpoint = some message) : Short [checkpoint] ∧
      framed aad (ascii "asset-source-checkpoint-replay.v1") [checkpoint] = some message := by
  by_cases hLength : checkpoint.length ≤ maxCheckpointCanonicalBytes
  · refine ⟨forall_mem_singleton.mpr (Nat.lt_of_le_of_lt hLength (by decide)), ?_⟩
    simpa [replayMessage, guard, hLength] using h
  · simp [replayMessage, guard, hLength] at h

theorem aeadKeyInfo_eq {profile : GoString} (h : aeadKeyInfo profile = some message) :
    Short [profile] ∧ message = framedTuple [ascii "asset-source-checkpoint-aead-key.v1", profile] := by
  by_cases hProfile : validProfile profile
  · have hLength : profile.length ≤ 128 := by
      simp only [validProfile, Bool.and_eq_true, decide_eq_true_eq] at hProfile
      exact hProfile.1.2
    refine ⟨forall_mem_singleton.mpr (Nat.lt_of_le_of_lt hLength (by decide)), ?_⟩
    simpa [aeadKeyInfo, guard, hProfile] using h.symm
  · simp [aeadKeyInfo, guard, hProfile] at h

theorem Framing.bytes_eq {framing : Framing} (h : framing.bytes = some message) :
    ∃ rest, Short (framing.domain :: rest) ∧ message = framedTuple (framing.domain :: rest) := by
  cases framing with
  | associatedData aad =>
    obtain ⟨_, _, _, _, hFields, hFramed⟩ := framed_of_valid (valid_of_framed h)
    refine ⟨_, (Framing.domain_short (.associatedData aad) short_nil).insert hFields, ?_⟩
    exact Option.some.inj (h.symm.trans (hFramed _ _))
  | replay aad checkpoint =>
    obtain ⟨hShort, h⟩ := replayMessage_eq h
    obtain ⟨_, _, _, _, hFields, hFramed⟩ := framed_of_valid (valid_of_framed h)
    refine ⟨_, (Framing.domain_short (.replay aad checkpoint) hShort).insert hFields, ?_⟩
    exact Option.some.inj (h.symm.trans (hFramed _ _))
  | keyDerivation profile =>
    obtain ⟨hShort, hMessage⟩ := aeadKeyInfo_eq h
    exact ⟨[profile], Framing.domain_short _ hShort, hMessage⟩

theorem Framing.bytes_inj {left right : Framing} (h : left.bytes = some message) (h' : right.bytes = some message) :
    left = right := by
  obtain ⟨rest, hShort, hMessage⟩ := bytes_eq h
  obtain ⟨rest', hShort', hMessage'⟩ := bytes_eq h'
  have hTuple := encodeFrames_inj hShort hShort' (hMessage.symm.trans hMessage')
  have hDomain := (List.cons.inj hTuple).1
  cases left with
  | associatedData aad =>
    cases right with
    | associatedData aad' =>
      have hShort := Framing.domain_short (.associatedData aad) short_nil
      rw [(framed_inj hShort hShort h h').2.1]
    | _ => exact absurd hDomain (by simp only [domain]; decide)
  | replay aad checkpoint =>
    cases right with
    | replay aad' checkpoint' =>
      obtain ⟨hShort, h⟩ := replayMessage_eq h
      obtain ⟨hShort', h'⟩ := replayMessage_eq h'
      obtain ⟨_, rfl, hCheckpoint⟩ := framed_inj (Framing.domain_short (.replay aad checkpoint) hShort)
        (Framing.domain_short (.replay aad' checkpoint') hShort') h h'
      rw [(List.cons.inj hCheckpoint).1]
    | _ => exact absurd hDomain (by simp only [domain]; decide)
  | keyDerivation profile =>
    cases right with
    | keyDerivation profile' =>
      obtain ⟨hShort, hMessage⟩ := aeadKeyInfo_eq h
      obtain ⟨hShort', hMessage'⟩ := aeadKeyInfo_eq h'
      have hTuple := encodeFrames_inj (Framing.domain_short (.keyDerivation profile) hShort)
        (Framing.domain_short (.keyDerivation profile') hShort') (hMessage.symm.trans hMessage')
      rw [(List.cons.inj (List.cons.inj hTuple).2).1]
    | _ => exact absurd hDomain (by simp only [domain]; decide)

end AiopsSystem.DiscoveryCheckpoint
