import AiopsSystem.DiscoveryCheckpoint.Codec

/-! # Sealed checkpoints open in their own context

The codec over ideal primitives: key derivation and message digests separate
their inputs, and the AEAD opens what was sealed and nothing else.
-/

namespace AiopsSystem.DiscoveryCheckpoint

open Go AssetCatalog List

structure Sealing where
  master : GoString
  aad : CheckpointAAD
  checkpoint : Checkpoint
  nonce : Nonce
  masterSize : master.length = 32
  aadValid : valid aad
  profileValid : validProfile checkpoint.profileCode = true
  bounded : checkpoint.canonical.length ≤ maxCheckpointCanonicalBytes

variable {Key : Type} (primitives : Primitives Key)

namespace Sealing

def key (call : Sealing) : Key :=
  primitives.hkdf call.master ((aeadKeyInfo call.checkpoint.profileCode).getD [])

def data (call : Sealing) : GoString := (aadBytes call.aad).getD []

def ciphertext (call : Sealing) : GoString :=
  primitives.gcmSeal (call.key primitives) call.nonce.bytes call.checkpoint.canonical call.data

def envelope (call : Sealing) : GoString := 1 :: call.nonce.bytes ++ call.ciphertext primitives

def result (call : Sealing) : SealedCheckpoint where
  envelope := call.envelope primitives
  checkpointKeyID := call.aad.checkpointKeyID
  checkpointSHA256 := sha256Hex (call.envelope primitives)
  checkpointVersion := call.aad.checkpointVersion

end Sealing

/-- The primitives separate their inputs; of the AEAD, only what was sealed opens. -/
structure Ideal (calls : List Sealing) : Prop where
  hkdf_inj : ∀ {m i m' i'}, primitives.hkdf m i = primitives.hkdf m' i' → m = m' ∧ i = i'
  hmac_inj : ∀ {k t k' t'}, primitives.hmac k t = primitives.hmac k' t' → k = k' ∧ t = t'
  overhead : ∀ k n p a, (primitives.gcmSeal k n p a).length = p.length + 16
  opens : ∀ call ∈ calls, primitives.gcmOpen (call.key primitives) call.nonce.bytes
    (call.ciphertext primitives) call.data = some call.checkpoint.canonical
  authentic : ∀ {k n c a p}, primitives.gcmOpen k n c a = some p → ∃ call ∈ calls, call.key primitives = k ∧
    call.nonce.bytes = n ∧ call.ciphertext primitives = c ∧ call.data = a ∧ call.checkpoint.canonical = p
  binding : ∀ call ∈ calls, ∀ other ∈ calls, call.ciphertext primitives = other.ciphertext primitives →
    call.key primitives = other.key primitives ∧ call.data = other.data ∧
      call.checkpoint.canonical = other.checkpoint.canonical

structure Keyring.Holds (keyring : Keyring) (keyID master : GoString) : Prop where
  live : keyring.destroyed = false
  key : keyring.keys.get? keyID = some master

theorem aeadKeyInfo_of_valid {profile : GoString} (h : validProfile profile) :
    aeadKeyInfo profile = some ((aeadKeyInfo profile).getD []) := by
  simp [aeadKeyInfo, guard, h]

theorem aadBytes_of_valid {aad : CheckpointAAD} (h : valid aad) : aadBytes aad = some ((aadBytes aad).getD []) := by
  obtain ⟨_, _, _, _, _, hFramed⟩ := framed_of_valid h
  rw [aadBytes, hFramed]
  rfl

variable {primitives} {calls : List Sealing} {keyring : Keyring} {aad : CheckpointAAD} {call other : Sealing}
  {checkpoint : SealedCheckpoint} {master profile : GoString}

theorem deriveAEADKey_of_valid (hMaster : master.length = 32) (h : validProfile profile) :
    deriveAEADKey primitives master profile = some (primitives.hkdf master ((aeadKeyInfo profile).getD [])) := by
  rw [deriveAEADKey, aeadKeyInfo_of_valid h]
  simp [guard, hMaster]

theorem Sealing.derives (call : Sealing) :
    deriveAEADKey primitives call.master call.checkpoint.profileCode = some (call.key primitives) :=
  deriveAEADKey_of_valid call.masterSize call.profileValid

theorem Sealing.data_eq (call : Sealing) : aadBytes call.aad = some call.data := aadBytes_of_valid call.aadValid

theorem Sealing.seals (hHolds : keyring.Holds call.aad.checkpointKeyID call.master)
    (hActive : keyring.activeKeyID = call.aad.checkpointKeyID) :
    sealCheckpoint primitives keyring call.aad call.checkpoint call.nonce = .ok (call.result primitives) := by
  simp only [sealCheckpoint, require_of call.aadValid, require_of call.profileValid, require_of hHolds.live,
    require_of call.masterSize, hActive, hHolds.key, call.derives, call.data_eq, orFail_some,
    ok_bind]
  rfl

theorem Sealing.result_authenticates (hIdeal : Ideal primitives calls) (call : Sealing) :
    authenticates (call.result primitives) call.aad := by
  have hLength : (call.envelope primitives).length = call.checkpoint.canonical.length + 29 := by
    simp [envelope, ciphertext, hIdeal.overhead, call.nonce.size]
    omega
  have hBounded := call.bounded
  refine ⟨rfl, rfl, matchesHex_sha256Hex _, ?_, ?_, rfl, ?_, rfl⟩
  · exact hLength ▸ Nat.le_add_left _ _
  · exact hLength ▸ Nat.add_le_add_right hBounded 29
  · have hNonce : ((call.envelope primitives).drop 1).take 12 = call.nonce.bytes := take_left' call.nonce.size
    exact hNonce ▸ call.nonce.nonzero

theorem Sealing.opens (hIdeal : Ideal primitives calls) (hCall : call ∈ calls)
    (hHolds : keyring.Holds call.aad.checkpointKeyID call.master) :
    openCheckpoint primitives keyring call.aad call.checkpoint.profileCode (call.result primitives) =
      .ok call.checkpoint := by
  have hNonce : ((call.result primitives).envelope.drop 1).take 12 = call.nonce.bytes :=
    take_left' call.nonce.size
  have hCipher : (call.result primitives).envelope.drop 13 = call.ciphertext primitives :=
    drop_left' (congrArg (· + 1) call.nonce.size)
  have hChecks := And.intro call.aadValid (And.intro call.profileValid (call.result_authenticates hIdeal))
  simp only [openCheckpoint, require_of hChecks, require_of hHolds.live, hHolds.key, require_of call.masterSize,
    hNonce, hCipher, call.derives, call.data_eq, hIdeal.opens call hCall, require_of call.bounded, orFail_some,
    ok_bind]
  rfl

/-- Keys and data determine what a checkpoint was sealed for. -/
theorem Sealing.context_inj (hIdeal : Ideal primitives calls) (call : Sealing) (hAad : valid aad)
    (hProfile : validProfile profile)
    (hKey : call.key primitives = primitives.hkdf master ((aeadKeyInfo profile).getD []))
    (hData : call.data = (aadBytes aad).getD []) :
    call.master = master ∧ call.checkpoint.profileCode = profile ∧ call.aad = aad := by
  obtain ⟨hMaster, hInfo⟩ := hIdeal.hkdf_inj hKey
  have hProfiles := @Framing.bytes_inj _ (.keyDerivation call.checkpoint.profileCode) (.keyDerivation profile)
    (aeadKeyInfo_of_valid call.profileValid) (hInfo ▸ aeadKeyInfo_of_valid hProfile)
  have hAads := @Framing.bytes_inj _ (.associatedData call.aad) (.associatedData aad)
    (aadBytes_of_valid call.aadValid) ((show (aadBytes call.aad).getD [] = _ from hData) ▸ aadBytes_of_valid hAad)
  exact ⟨hMaster, Framing.keyDerivation.inj hProfiles, Framing.associatedData.inj hAads⟩

theorem sha256Hex_of_authenticates (h : authenticates checkpoint aad) :
    checkpoint.checkpointSHA256 = sha256Hex checkpoint.envelope := by
  obtain ⟨_, _, hHex, _, _, _, _, hDigest⟩ := h
  obtain ⟨left, hLeft, _, hText⟩ := hexDecode_digest hHex
  obtain ⟨right, hRight, _, hText'⟩ := hexDecode_digest (matchesHex_sha256Hex checkpoint.envelope)
  obtain rfl := Option.some.inj (hLeft.symm.trans (hDigest.trans hRight))
  exact hText.symm.trans hText'

theorem envelope_of_authenticates (h : authenticates checkpoint aad) :
    checkpoint.envelope = 1 :: (checkpoint.envelope.drop 1).take 12 ++ checkpoint.envelope.drop 13 := by
  obtain ⟨_, _, _, _, _, hHead, _⟩ := h
  cases hEnvelope : checkpoint.envelope with
  | nil => simp [hEnvelope] at hHead
  | cons first rest =>
    obtain rfl : first = 1 := by simpa [hEnvelope] using hHead
    simp

theorem openCheckpoint_sound (hIdeal : Ideal primitives calls) {opened : Checkpoint}
    (h : openCheckpoint primitives keyring aad profile checkpoint = .ok opened) :
    ∃ call ∈ calls, keyring.Holds aad.checkpointKeyID call.master ∧ call.aad = aad ∧ call.checkpoint = opened ∧
      opened.profileCode = profile ∧ call.result primitives = checkpoint := by
  simp only [openCheckpoint, bind_eq_ok, require_eq_ok, orFail_eq_ok] at h
  obtain ⟨_, ⟨hAad, hProfile, hAuthentic⟩, _, hLive, master, hMaster, _, hSize, derived, hDerived, data, hData,
    plaintext, hOpen, _, _, hOpened⟩ := h
  obtain rfl := Option.some.inj ((deriveAEADKey_of_valid hSize hProfile).symm.trans hDerived)
  obtain rfl := Option.some.inj ((aadBytes_of_valid hAad).symm.trans hData)
  obtain ⟨call, hCall, hKey, hNonce, hCipher, hCallData, hPlaintext⟩ := hIdeal.authentic hOpen
  obtain ⟨rfl, rfl, rfl⟩ := call.context_inj hIdeal hAad hProfile hKey hCallData
  cases hOpened
  refine ⟨call, hCall, ⟨hLive, hMaster⟩, rfl, ?_, rfl, ?_⟩
  · rw [← hPlaintext]
  · have hEnvelope : call.envelope primitives = checkpoint.envelope := by
      rw [envelope_of_authenticates hAuthentic, Sealing.envelope, hNonce, hCipher]
    rw [Sealing.result, hEnvelope, ← sha256Hex_of_authenticates hAuthentic, ← hAuthentic.1, ← hAuthentic.2.1]

theorem Sealing.envelope_inj (hIdeal : Ideal primitives calls) (hCall : call ∈ calls) (hOther : other ∈ calls)
    (h : call.envelope primitives = other.envelope primitives) :
    call.aad = other.aad ∧ call.checkpoint = other.checkpoint := by
  have hCipher := (append_inj h (by simp [call.nonce.size, other.nonce.size])).2
  obtain ⟨hKey, hData, hCanonical⟩ := hIdeal.binding call hCall other hOther hCipher
  obtain ⟨_, hProfile, hAad⟩ := call.context_inj hIdeal other.aadValid other.profileValid hKey hData
  refine ⟨hAad, ?_⟩
  change Checkpoint.mk call.checkpoint.profileCode call.checkpoint.canonical = _
  rw [hProfile, hCanonical]

theorem Sealing.replay_eq (hHolds : keyring.Holds call.aad.checkpointKeyID call.master) :
    ∃ message, Framing.bytes (.replay call.aad call.checkpoint.canonical) = some message ∧
      replayIdentity primitives keyring call.aad call.checkpoint = .ok ⟨call.aad.checkpointKeyID,
        primitives.hmac (primitives.hkdf call.master (ascii "asset-source-checkpoint-replay-key.v1")) message⟩ := by
  obtain ⟨message, hMessage⟩ : ∃ message, replayMessage call.aad call.checkpoint.canonical = some message := by
    obtain ⟨_, _, _, _, _, hFramed⟩ := framed_of_valid call.aadValid
    simp [replayMessage, guard, call.bounded, hFramed]
  refine ⟨message, hMessage, ?_⟩
  simp only [replayIdentity, require_of call.aadValid, require_of call.profileValid, require_of hHolds.live,
    hHolds.key, require_of call.masterSize, hMessage, orFail_some, ok_bind]
  rfl

/-- What was sealed opens under its own associated data and profile, and nothing else opens. -/
theorem checkpoint_opens_only_in_context (hIdeal : Ideal primitives calls) :
    (∀ (call : Sealing) (keyring : Keyring), keyring.Holds call.aad.checkpointKeyID call.master →
      keyring.activeKeyID = call.aad.checkpointKeyID →
      sealCheckpoint primitives keyring call.aad call.checkpoint call.nonce = .ok (call.result primitives)) ∧
    (∀ call ∈ calls, ∀ keyring : Keyring, keyring.Holds call.aad.checkpointKeyID call.master →
      openCheckpoint primitives keyring call.aad call.checkpoint.profileCode (call.result primitives) =
        .ok call.checkpoint) ∧
    (∀ call ∈ calls, ∀ keyring aad profile checkpoint opened, checkpoint.envelope = call.envelope primitives →
      openCheckpoint primitives keyring aad profile checkpoint = .ok opened →
      aad = call.aad ∧ profile = call.checkpoint.profileCode ∧ opened = call.checkpoint) ∧
    (∀ keyring aad profile checkpoint opened, openCheckpoint primitives keyring aad profile checkpoint = .ok opened →
      ∃ call ∈ calls, call.aad = aad ∧ call.checkpoint = opened ∧ call.result primitives = checkpoint) ∧
    (∀ (call other : Sealing) (keyring otherKeyring : Keyring),
      keyring.Holds call.aad.checkpointKeyID call.master →
      otherKeyring.Holds other.aad.checkpointKeyID other.master →
      ∃ identity otherIdentity, replayIdentity primitives keyring call.aad call.checkpoint = .ok identity ∧
        replayIdentity primitives otherKeyring other.aad other.checkpoint = .ok otherIdentity ∧
        (identity.digestSHA256 = otherIdentity.digestSHA256 ↔ call.master = other.master ∧ call.aad = other.aad ∧
          call.checkpoint.canonical = other.checkpoint.canonical)) ∧
    ∀ (left right : Framing) (message : GoString), left.bytes = some message → right.bytes = some message →
      left = right := by
  refine ⟨fun _ _ => Sealing.seals, fun _ hCall _ => Sealing.opens hIdeal hCall, ?_, ?_, ?_,
    fun _ _ _ => Framing.bytes_inj⟩
  · intro call hCall keyring aad profile checkpoint opened hEnvelope h
    obtain ⟨other, hOther, _, rfl, rfl, rfl, rfl⟩ := openCheckpoint_sound hIdeal h
    obtain ⟨hAad, hCheckpoint⟩ := Sealing.envelope_inj hIdeal hOther hCall hEnvelope
    exact ⟨hAad, congrArg Checkpoint.profileCode hCheckpoint, hCheckpoint⟩
  · intro keyring aad profile checkpoint opened h
    obtain ⟨call, hCall, _, hAad, hOpened, _, hResult⟩ := openCheckpoint_sound hIdeal h
    exact ⟨call, hCall, hAad, hOpened, hResult⟩
  · intro call other keyring otherKeyring hHolds hOther
    obtain ⟨message, hMessage, hIdentity⟩ := Sealing.replay_eq hHolds
    obtain ⟨message', hMessage', hIdentity'⟩ := Sealing.replay_eq hOther
    refine ⟨_, _, hIdentity, hIdentity', ?_⟩
    constructor
    · intro h
      obtain ⟨hKey, rfl⟩ := hIdeal.hmac_inj h
      obtain ⟨hAad, hCanonical⟩ := Framing.replay.inj (Framing.bytes_inj hMessage hMessage')
      exact ⟨(hIdeal.hkdf_inj hKey).1, hAad, hCanonical⟩
    · rintro ⟨hMaster, hAad, hCanonical⟩
      rw [hAad, hCanonical] at hMessage
      rw [hMaster, Option.some.inj (hMessage.symm.trans hMessage')]

/-- The associated data of the checkpoint that was sealed at this version. -/
def sampleAAD (version : Int) : CheckpointAAD where
  locator := ⟨⟨ascii "00000000-0000-4000-8000-000000000001", ascii "00000000-0000-4000-8000-000000000002"⟩,
    ascii "00000000-0000-4000-8000-000000000003"⟩
  providerKind := ascii "CMDB"
  checkpointRevision := 1
  canonicalRevisionDigest := List.replicate 64 97
  sourceDefinitionDigest := List.replicate 64 98
  checkpointKeyID := ascii "k1"
  checkpointVersion := version

def firstSealing : Sealing where
  master := List.replicate 32 5
  aad := sampleAAD 1
  checkpoint := ⟨ascii "p", ascii "cursor"⟩
  nonce := ⟨List.replicate 12 1, rfl, by decide⟩
  masterSize := rfl
  aadValid := by decide +kernel
  profileValid := by decide +kernel
  bounded := by decide

/-- The same checkpoint, sealed again at the next version. -/
def secondSealing : Sealing where
  master := List.replicate 32 5
  aad := sampleAAD 2
  checkpoint := ⟨ascii "p", ascii "cursor"⟩
  nonce := ⟨List.replicate 12 2, rfl, by decide⟩
  masterSize := rfl
  aadValid := by decide +kernel
  profileValid := by decide +kernel
  bounded := by decide

def sampleKeyring : Keyring := ⟨ascii "k1", Finmap.singleton (ascii "k1") (List.replicate 32 5), false⟩

/-- Keys are pairs of a master key and a use. The tag of a ciphertext tells the two sealings apart, and the AEAD opens
nothing else. -/
def samplePrimitives : Primitives (GoString × GoString) where
  hkdf master info := (master, info)
  gcmSeal _ _ plaintext data := plaintext ++ List.replicate 16 (if data = firstSealing.data then 1 else 2)
  gcmOpen key nonce ciphertext data :=
    if key = (List.replicate 32 5, (aeadKeyInfo (ascii "p")).getD []) ∧
        (nonce = firstSealing.nonce.bytes ∧ ciphertext = ascii "cursor" ++ List.replicate 16 1 ∧
            data = firstSealing.data ∨
          nonce = secondSealing.nonce.bytes ∧ ciphertext = ascii "cursor" ++ List.replicate 16 2 ∧
            data = secondSealing.data) then
      some (ascii "cursor")
    else none
  hmac key text := joinZero (List.replicate key.1.length 1) (key.1 ++
    joinZero (List.replicate key.2.length 1) (key.2 ++ text))

theorem joinZero_lengths {left left' right right' : GoString}
    (h : joinZero (List.replicate left.length 1) (left ++ right) =
      joinZero (List.replicate left'.length 1) (left' ++ right')) : left = left' ∧ right = right' := by
  obtain ⟨hLength, hBody⟩ := joinZero_inj (by simp) (by simp) h
  exact append_inj hBody (by simpa using congrArg List.length hLength)

theorem firstSealing_ciphertext :
    firstSealing.ciphertext samplePrimitives = ascii "cursor" ++ List.replicate 16 1 := by
  decide +kernel

theorem secondSealing_ciphertext :
    secondSealing.ciphertext samplePrimitives = ascii "cursor" ++ List.replicate 16 2 := by
  decide +kernel

theorem samplePrimitives_ideal : Ideal samplePrimitives [firstSealing, secondSealing] where
  hkdf_inj h := Prod.mk.inj h
  hmac_inj h := by
    obtain ⟨hMaster, hRest⟩ := joinZero_lengths h
    obtain ⟨hInfo, hText⟩ := joinZero_lengths hRest
    exact ⟨Prod.ext hMaster hInfo, hText⟩
  overhead _ _ _ _ := by simp [samplePrimitives]
  opens call hCall := by
    rcases mem_pair.mp hCall with rfl | rfl
    · decide +kernel
    · decide +kernel
  authentic h := by
    simp only [samplePrimitives, Option.ite_none_right_eq_some] at h
    obtain ⟨⟨rfl, ⟨rfl, rfl, rfl⟩ | ⟨rfl, rfl, rfl⟩⟩, hSome⟩ := h
    · exact ⟨firstSealing, mem_cons_self, rfl, rfl, firstSealing_ciphertext, rfl, Option.some.inj hSome⟩
    · exact ⟨secondSealing, mem_cons_of_mem _ mem_cons_self, rfl, rfl, secondSealing_ciphertext, rfl,
        Option.some.inj hSome⟩
  binding call hCall other hOther h := by
    have hTags : firstSealing.ciphertext samplePrimitives ≠ secondSealing.ciphertext samplePrimitives := by
      rw [firstSealing_ciphertext, secondSealing_ciphertext]
      decide
    rcases mem_pair.mp hCall with rfl | rfl <;> rcases mem_pair.mp hOther with rfl | rfl
    · exact ⟨rfl, rfl, rfl⟩
    · exact absurd h hTags
    · exact absurd h.symm hTags
    · exact ⟨rfl, rfl, rfl⟩

/-- Both sealings open for their own version, and the first does not open for the version of the second. -/
theorem sample_opens :
    openCheckpoint samplePrimitives sampleKeyring (sampleAAD 1) (ascii "p") (firstSealing.result samplePrimitives) =
        .ok ⟨ascii "p", ascii "cursor"⟩ ∧
      openCheckpoint samplePrimitives sampleKeyring (sampleAAD 2) (ascii "p") (secondSealing.result samplePrimitives) =
        .ok ⟨ascii "p", ascii "cursor"⟩ ∧
      ∀ opened, openCheckpoint samplePrimitives sampleKeyring (sampleAAD 2) (ascii "p")
        { firstSealing.result samplePrimitives with checkpointVersion := 2 } ≠ .ok opened := by
  obtain ⟨_, hOpens, hContext, _⟩ := checkpoint_opens_only_in_context samplePrimitives_ideal
  have hHolds : sampleKeyring.Holds (ascii "k1") (List.replicate 32 5) := ⟨rfl, Finmap.lookup_singleton_eq⟩
  have hFirst : firstSealing ∈ [firstSealing, secondSealing] := mem_cons_self
  refine ⟨hOpens firstSealing hFirst sampleKeyring hHolds, ?_, ?_⟩
  · exact hOpens secondSealing (mem_cons_of_mem _ mem_cons_self) sampleKeyring hHolds
  · intro opened hOpened
    have hSame := (hContext firstSealing hFirst sampleKeyring _ _ _ opened rfl hOpened).1
    cases congrArg CheckpointAAD.checkpointVersion hSame

end AiopsSystem.DiscoveryCheckpoint
