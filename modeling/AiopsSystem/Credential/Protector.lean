import AiopsSystem.Credential.Revocation
import AiopsSystem.Go.Frame
import AiopsSystem.Go.Table
import AiopsSystem.Machine.Run

/-! # The reference protector

A reference is sealed with its context as associated data, and digested together
with it. Both byte strings determine the context, so what was protected in one
context is worth nothing in another. The cryptographic functions are parameters;
of the sealing only the round trip is needed, as the digest is checked again
after opening.
-/

namespace AiopsSystem.Credential.Protection

open Go List

def maxReferenceSize : Nat := 4096

structure ProtectionKey where
  (encryptionKey hmacKey : GoString)
deriving DecidableEq

structure KeyRing where
  activeKeyID : GoString
  keys : GoMap GoString ProtectionKey

/-- AES-GCM with key, nonce, text and associated data, and HMAC-SHA-256. -/
structure ReferencePrimitives where
  gcmSeal : GoString → GoString → GoString → GoString → GoString
  gcmOpen : GoString → GoString → GoString → GoString → Option GoString
  hmac : GoString → GoString → GoString

structure AESGCMProtector where
  activeKeyID : GoString
  keys : GoMap GoString ProtectionKey
  destroyed : Bool
deriving DecidableEq

/-- What `io.ReadFull` reads from the random source. -/
abbrev ReferenceNonce := {bytes : GoString // bytes.length = 12}

def validProtectionKey (keyID : GoString) (key : ProtectionKey) : Bool :=
  validIdentifier keyID 128 && key.encryptionKey.length == 32 && 32 ≤ key.hmacKey.length &&
    key.encryptionKey != key.hmacKey

def newAESGCMProtector (ring : KeyRing) : Option AESGCMProtector := do
  guard (validIdentifier ring.activeKeyID 128 = true ∧ ring.keys ≠ ∅)
  guard (ring.keys.anyEntry (fun keyID key => !validProtectionKey keyID key) = false)
  let _ ← ring.keys.get? ring.activeKeyID
  return ⟨ring.activeKeyID, ring.keys, false⟩

/-- The epoch is of type `int64`. -/
def validReferenceContext (context : ReferenceContext) : Prop :=
  validRevocationID context.revocationID = true ∧ validIdentifier context.actionID 256 = true ∧
  (0 < context.actionEpoch ∧ context.actionEpoch < 2 ^ 63) ∧ validOpaqueText context.issuer 256 = true ∧
  validIdentifier context.issuerRevision 256 = true

instance (context : ReferenceContext) : Decidable (validReferenceContext context) := inferInstanceAs (Decidable (_ ∧ _))

def writeAADField (value : GoString) : GoString := bigEndian32 value.length ++ value

def referenceAAD (context : ReferenceContext) : GoString :=
  writeAADField (ascii "credential-reference.v2") ++ (writeAADField context.revocationID ++
    (writeAADField context.actionID ++ (bigEndian64 (context.actionEpoch % 2 ^ 64).toNat ++
      (writeAADField context.issuer ++ writeAADField context.issuerRevision))))

/-- What `referenceHMAC` writes to the digest. -/
def referenceMessage (aad plaintext : GoString) : GoString := aad ++ (bigEndian64 plaintext.length ++ plaintext)

def validReferenceSize (plaintext : GoString) : Prop := 0 < plaintext.length ∧ plaintext.length ≤ maxReferenceSize

instance (plaintext : GoString) : Decidable (validReferenceSize plaintext) := inferInstanceAs (Decidable (_ ∧ _))

/-- `aes.NewCipher` takes keys of these sizes. -/
def newGCM (key : GoString) : Option Unit := guard (key.length = 16 ∨ key.length = 24 ∨ key.length = 32)

section Calls

variable (primitives : ReferencePrimitives) (protector : AESGCMProtector) (context : ReferenceContext)

def referenceHMAC (key aad plaintext : GoString) : GoString := primitives.hmac key (referenceMessage aad plaintext)

/-- `Protect`, with what the random source gives. -/
def protect (reference : SensitiveReference) (random : Option ReferenceNonce) : Option ProtectedReference := do
  guard (validReferenceContext context)
  let plaintext ← reference
  guard (protector.destroyed = false)
  guard (validReferenceSize plaintext)
  let key ← protector.keys.get? protector.activeKeyID
  newGCM key.encryptionKey
  let nonce ← random
  let aad := referenceAAD context
  return {
    ciphertext := nonce.val ++ primitives.gcmSeal key.encryptionKey nonce.val plaintext aad
    accessorHMAC := referenceHMAC primitives key.hmacKey aad plaintext
    keyID := protector.activeKeyID }

/-- `Matches`; an error comes with `false`. -/
def matchesReference (stored : ProtectedReference) (reference : SensitiveReference) : Option Bool := do
  guard (validReferenceContext context)
  let plaintext ← reference
  guard (validIdentifier stored.keyID 128 = true ∧ stored.accessorHMAC.length = 32)
  guard (protector.destroyed = false)
  let key ← protector.keys.get? stored.keyID
  guard (validReferenceSize plaintext)
  return decide (referenceHMAC primitives key.hmacKey (referenceAAD context) plaintext = stored.accessorHMAC)

/-- `Unprotect`, ending in `NewSensitiveReference` -/
def unprotect (stored : ProtectedReference) : Option SensitiveReference := do
  guard (validReferenceContext context)
  guard (validIdentifier stored.keyID 128 = true ∧ stored.accessorHMAC.length = 32)
  guard (protector.destroyed = false)
  let key ← protector.keys.get? stored.keyID
  newGCM key.encryptionKey
  guard (12 + 16 + 1 ≤ stored.ciphertext.length ∧ stored.ciphertext.length ≤ 12 + 16 + maxReferenceSize)
  let aad := referenceAAD context
  let plaintext ← primitives.gcmOpen key.encryptionKey (stored.ciphertext.take 12) (stored.ciphertext.drop 12) aad
  guard (referenceHMAC primitives key.hmacKey aad plaintext = stored.accessorHMAC)
  guard (validReferenceSize plaintext)
  return some plaintext

def destroy : AESGCMProtector :=
  if protector.destroyed = true then protector else ⟨[], ∅, true⟩

end Calls

/-! ## Calls of one protector

Each call does its work under the protector's lock, so calls take effect one
after the other, in the order in which they get the lock.
-/

inductive ProtectorCall where
  | protect (context : ReferenceContext) (reference : SensitiveReference) (random : Option ReferenceNonce)
  | compare (context : ReferenceContext) (stored : ProtectedReference) (reference : SensitiveReference)
  | unprotect (context : ReferenceContext) (stored : ProtectedReference)
  | destroy

inductive ProtectorReply where
  | sealed (result : Option ProtectedReference)
  | compared (result : Option Bool)
  | opened (result : Option SensitiveReference)
  | done

def ProtectorReply.Failed : ProtectorReply → Prop
  | .sealed result => result = none
  | .compared result => result = none
  | .opened result => result = none
  | .done => True

def perform (primitives : ReferencePrimitives) (protector : AESGCMProtector) :
    ProtectorCall → ProtectorReply × AESGCMProtector
  | .protect context reference random => (.sealed (protect primitives protector context reference random), protector)
  | .compare context stored reference =>
    (.compared (matchesReference primitives protector context stored reference), protector)
  | .unprotect context stored => (.opened (unprotect primitives protector context stored), protector)
  | .destroy => (.done, destroy protector)

def operations (primitives : ReferencePrimitives) (protector : AESGCMProtector) :
    Machine AESGCMProtector ProtectorCall ProtectorReply := ⟨protector, perform primitives⟩

variable {primitives : ReferencePrimitives} {protector : AESGCMProtector}

theorem perform_kept {call : ProtectorCall} (h : call ≠ .destroy) :
    (perform primitives protector call).2 = protector := by
  cases call with
  | destroy => exact absurd rfl h
  | _ => rfl

theorem destroy_destroyed : (destroy protector).destroyed := by
  unfold destroy
  split <;> simp_all

theorem perform_destroyed (h : protector.destroyed) (call : ProtectorCall) :
    (perform primitives protector call).1.Failed ∧ (perform primitives protector call).2.destroyed := by
  cases call with
  | protect context reference random =>
    refine ⟨?_, h⟩
    simp [perform, ProtectorReply.Failed, protect, h, guard]
  | compare context stored reference =>
    refine ⟨?_, h⟩
    simp [perform, ProtectorReply.Failed, matchesReference, h, guard]
  | unprotect context stored =>
    refine ⟨?_, h⟩
    simp [perform, ProtectorReply.Failed, unprotect, h, guard]
  | destroy => exact ⟨trivial, destroy_destroyed⟩

variable {calls : List ProtectorCall} {value : GoString} {maximum : Nat}

theorem stateAt_kept {n : Nat} (h : ∀ m, m < n → calls[m]? ≠ some .destroy) :
    (operations primitives protector).stateAt calls n = protector := by
  induction n with
  | zero => rfl
  | succ n ih =>
    have hState := ih fun m hm => h m (Nat.lt_succ_of_lt hm)
    cases hCall : calls[n]? with
    | none => rw [Machine.stateAt_succ_of_none _ hCall, hState]
    | some call =>
      rw [Machine.stateAt_succ _ hCall, hState]
      refine perform_kept ?_
      rintro rfl
      exact h n (Nat.lt_succ_self n) hCall

theorem stateAt_destroyed {m n : Nat} (hCall : calls[m]? = some .destroy) (hmn : m < n) :
    ((operations primitives protector).stateAt calls n).destroyed := by
  have hNow : ((operations primitives protector).stateAt calls (m + 1)).destroyed := by
    rw [Machine.stateAt_succ _ hCall]
    exact destroy_destroyed
  exact Machine.stateAt_related (operations primitives protector) (P := fun _ => True)
    (R := fun left right => left.destroyed → right.destroyed) (fun _ _ => trivial) (fun _ h => h)
    (fun _ _ _ h h' => h' ∘ h) (fun state call _ h => (perform_destroyed h call).2) calls hmn hNow

/-! ## Framing -/

variable {context other : ReferenceContext}

theorem writeAADField_inj {left right rest rest' : GoString} (hLeft : left.length ≤ 256) (hRight : right.length ≤ 256)
    (h : writeAADField left ++ rest = writeAADField right ++ rest') : left = right ∧ rest = rest' := by
  simp only [writeAADField, append_assoc] at h
  exact counted_inj (by omega) (by omega) h

theorem validRevocationID_length {id : GoString} (h : validRevocationID id) : id.length = 36 := by
  have hLength := splitByte_length 45 id
  unfold validRevocationID at h
  split at h
  · rename_i hParts
    simp only [matchesHex, Bool.and_eq_true, beq_iff_eq] at h
    simp only [hParts, map_cons, map_nil, sum_cons, sum_nil] at hLength
    omega
  · cases h

theorem validIdentifier_length (h : validIdentifier value maximum) : value.length ≤ maximum := by
  simp only [validIdentifier, Bool.and_eq_true, decide_eq_true_eq] at h
  exact h.1.2

theorem validOpaqueText_length (h : validOpaqueText value maximum) : value.length ≤ maximum := by
  simp only [validOpaqueText, Bool.and_eq_true, decide_eq_true_eq] at h
  exact h.1.1.2

/-- The associated data ends where it says, so whatever follows it is determined as well. -/
theorem referenceAAD_inj (hContext : validReferenceContext context) (hOther : validReferenceContext other)
    {rest rest' : GoString} (h : referenceAAD context ++ rest = referenceAAD other ++ rest') :
    context = other ∧ rest = rest' := by
  obtain ⟨hID, hAction, hEpoch, hIssuer, hRevision⟩ := hContext
  obtain ⟨hID', hAction', hEpoch', hIssuer', hRevision'⟩ := hOther
  simp only [referenceAAD, append_assoc] at h
  obtain ⟨hIDs, h⟩ := writeAADField_inj (by rw [validRevocationID_length hID]; decide)
    (by rw [validRevocationID_length hID']; decide) (append_cancel_left h)
  obtain ⟨hActions, h⟩ := writeAADField_inj (validIdentifier_length hAction) (validIdentifier_length hAction') h
  obtain ⟨hEpochs, h⟩ := append_inj h rfl
  obtain ⟨hIssuers, h⟩ := writeAADField_inj (validOpaqueText_length hIssuer) (validOpaqueText_length hIssuer') h
  obtain ⟨hRevisions, h⟩ := writeAADField_inj (validIdentifier_length hRevision) (validIdentifier_length hRevision') h
  have hSame := bigEndian64_inj (by omega) (by omega) hEpochs
  refine ⟨?_, h⟩
  cases context
  cases other
  simp only [ReferenceContext.mk.injEq]
  exact ⟨hIDs, hActions, by simp only at hEpoch hEpoch' hSame; omega, hIssuers, hRevisions⟩

theorem referenceMessage_inj (hContext : validReferenceContext context) (hOther : validReferenceContext other)
    {plaintext plaintext' : GoString}
    (h : referenceMessage (referenceAAD context) plaintext = referenceMessage (referenceAAD other) plaintext') :
    context = other ∧ plaintext = plaintext' := by
  obtain ⟨hSame, hRest⟩ := referenceAAD_inj hContext hOther h
  exact ⟨hSame, (append_inj hRest rfl).2⟩

/-! ## References and their contexts -/

/-- The sealing opens again, and no other text has the digest of a digested one. -/
structure IdealReferencePrimitives (primitives : ReferencePrimitives) (digested : Set (GoString × GoString)) : Prop where
  overhead : ∀ key nonce text aad, (primitives.gcmSeal key nonce text aad).length = text.length + 16
  opens : ∀ key nonce text aad, primitives.gcmOpen key nonce (primitives.gcmSeal key nonce text aad) aad = some text
  digestSize : ∀ key message, (primitives.hmac key message).length = 32
  separates : ∀ {key message other}, (key, message) ∈ digested → primitives.hmac key other = primitives.hmac key message →
    other = message

/-- The protector is live and holds the key under this name. -/
structure AESGCMProtector.Holds (protector : AESGCMProtector) (keyID : GoString) (key : ProtectionKey) : Prop where
  live : protector.destroyed = false
  held : protector.keys.get? keyID = some key
  named : validIdentifier keyID 128 = true
  size : key.encryptionKey.length = 32

def protectedReference (primitives : ReferencePrimitives) (keyID : GoString) (key : ProtectionKey)
    (context : ReferenceContext) (plaintext : GoString) (nonce : ReferenceNonce) : ProtectedReference where
  ciphertext := nonce.val ++ primitives.gcmSeal key.encryptionKey nonce.val plaintext (referenceAAD context)
  accessorHMAC := referenceHMAC primitives key.hmacKey (referenceAAD context) plaintext
  keyID := keyID

variable {ring : KeyRing} {keyID plaintext : GoString} {key : ProtectionKey} {nonce : ReferenceNonce}
  {digested : Set (GoString × GoString)}

theorem newAESGCMProtector_eq (h : newAESGCMProtector ring = some protector) :
    protector = ⟨ring.activeKeyID, ring.keys, false⟩ ∧ (∃ key, ring.keys.get? ring.activeKeyID = some key) ∧
      ∀ keyID key, ring.keys.get? keyID = some key → validProtectionKey keyID key := by
  simp only [newAESGCMProtector, Option.bind_eq_bind, Option.bind_eq_some_iff, Option.guard_eq_some'] at h
  obtain ⟨_, _, _, hEntries, key, hKey, hProtector⟩ := h
  refine ⟨(Option.some.inj hProtector).symm, ⟨key, hKey⟩, ?_⟩
  intro keyID key hKey
  by_contra hInvalid
  have hAny := (ring.keys.anyEntry_iff fun keyID key => !validProtectionKey keyID key).mpr
    ⟨keyID, key, hKey, by simpa using hInvalid⟩
  exact absurd (hAny.symm.trans hEntries) (by decide)

theorem holds_of_new (h : newAESGCMProtector ring = some protector) (hKey : ring.keys.get? keyID = some key) :
    protector.Holds keyID key := by
  obtain ⟨rfl, _, hValid⟩ := newAESGCMProtector_eq h
  have hValid := hValid keyID key hKey
  simp only [validProtectionKey, Bool.and_eq_true, beq_iff_eq] at hValid
  exact ⟨rfl, hKey, hValid.1.1.1, hValid.1.1.2⟩

theorem newGCM_of_size {key : GoString} (h : key.length = 32) : newGCM key = some () := by
  simp [newGCM, guard, h]

theorem protect_eq (hHolds : protector.Holds protector.activeKeyID key) (hContext : validReferenceContext context)
    (hSize : validReferenceSize plaintext) : protect primitives protector context (some plaintext) (some nonce) =
      some (protectedReference primitives protector.activeKeyID key context plaintext nonce) := by
  simp [protect, guard, hContext, hHolds.live, hSize, hHolds.held, newGCM_of_size hHolds.size, protectedReference]

section

variable (hIdeal : IdealReferencePrimitives primitives digested) (hHolds : protector.Holds keyID key)
  (hContext : validReferenceContext context)

include hIdeal hHolds hContext

/-- The context and the reference are the only ones that match. -/
theorem matchesReference_iff (hSize : validReferenceSize plaintext)
    (hDigested : (key.hmacKey, referenceMessage (referenceAAD context) plaintext) ∈ digested)
    (reference : SensitiveReference) :
    matchesReference primitives protector other (protectedReference primitives keyID key context plaintext nonce)
      reference = some true ↔ other = context ∧ reference = some plaintext := by
  constructor
  · intro h
    simp only [matchesReference, Option.bind_eq_bind, Option.bind_eq_some_iff, Option.guard_eq_some', Option.pure_def,
      Option.some.injEq] at h
    obtain ⟨_, hOther, _, rfl, _, _, _, _, held, hHeld, _, _, hSame⟩ := h
    obtain rfl := Option.some.inj (hHolds.held.symm.trans hHeld)
    have hSame := of_decide_eq_true hSame
    obtain ⟨rfl, rfl⟩ := referenceMessage_inj hOther hContext (hIdeal.separates hDigested hSame)
    exact ⟨rfl, rfl⟩
  · rintro ⟨rfl, rfl⟩
    simp [matchesReference, guard, hContext, protectedReference, hHolds.named, referenceHMAC, hIdeal.digestSize,
      hHolds.live, hHolds.held, hSize]

theorem unprotect_eq (hSize : validReferenceSize plaintext) :
    unprotect primitives protector context (protectedReference primitives keyID key context plaintext nonce) =
      some (some plaintext) := by
  have hLength : 12 + 16 + 1 ≤ 12 + (plaintext.length + 16) ∧
    12 + (plaintext.length + 16) ≤ 12 + 16 + maxReferenceSize := by
    obtain ⟨_, _⟩ := hSize
    omega
  simp [unprotect, guard, hContext, protectedReference, hHolds.named, referenceHMAC, hIdeal.digestSize,
    hHolds.live, hHolds.held, newGCM_of_size hHolds.size, hIdeal.overhead, nonce.property, hLength, take_left' nonce.property,
    drop_left' nonce.property, hIdeal.opens, hSize]

theorem unprotect_context (hDigested : (key.hmacKey, referenceMessage (referenceAAD context) plaintext) ∈ digested)
    {reference : SensitiveReference} (h : unprotect primitives protector other
      (protectedReference primitives keyID key context plaintext nonce) = some reference) : other = context := by
  simp only [unprotect, Option.bind_eq_bind, Option.bind_eq_some_iff, Option.guard_eq_some'] at h
  obtain ⟨_, hOther, _, _, _, _, held, hHeld, _, _, _, _, _, _, _, hSame, _⟩ := h
  obtain rfl := Option.some.inj (hHolds.held.symm.trans hHeld)
  exact (referenceMessage_inj hOther hContext (hIdeal.separates hDigested hSame)).1

end

/-- A reference protected under a key opens and matches in its own context only, for every protector that
still has the key, until the protector is destroyed. -/
theorem references_are_bound_to_their_context (hIdeal : IdealReferencePrimitives primitives digested)
    (hNew : newAESGCMProtector ring = some protector) :
    (∃ key, ring.keys.get? ring.activeKeyID = some key ∧
      ∀ context plaintext nonce, validReferenceContext context → validReferenceSize plaintext →
      ∃ stored, protect primitives protector context (some plaintext) (some nonce) = some stored ∧
      ((key.hmacKey, referenceMessage (referenceAAD context) plaintext) ∈ digested →
        ∀ later current, newAESGCMProtector later = some current → later.keys.get? ring.activeKeyID = some key →
        unprotect primitives current context stored = some (some plaintext) ∧
        (∀ reference, matchesReference primitives current context stored reference = some true ↔
          reference = some plaintext) ∧
        ∀ other, other ≠ context → unprotect primitives current other stored = none ∧
          ∀ reference, matchesReference primitives current other stored reference ≠ some true)) ∧
    (∀ calls n, (∀ m, m < n → calls[m]? ≠ some .destroy) → (operations primitives protector).stateAt calls n = protector) ∧
    (∀ calls m n, calls[m]? = some .destroy → m < n → ∀ call,
      (perform primitives ((operations primitives protector).stateAt calls n) call).1.Failed) ∧
    ∀ context other plaintext plaintext', validReferenceContext context → validReferenceContext other →
      (referenceAAD context = referenceAAD other → context = other) ∧
      (referenceMessage (referenceAAD context) plaintext = referenceMessage (referenceAAD other) plaintext' →
        context = other ∧ plaintext = plaintext') := by
  refine ⟨?_, fun _ _ => stateAt_kept, fun _ _ _ hCall hmn => fun call =>
    (perform_destroyed (stateAt_destroyed hCall hmn) call).1, ?_⟩
  · obtain ⟨rfl, ⟨key, hKey⟩, _⟩ := newAESGCMProtector_eq hNew
    refine ⟨key, hKey, ?_⟩
    intro context plaintext nonce hContext hSize
    refine ⟨_, protect_eq (holds_of_new hNew hKey) hContext hSize, ?_⟩
    intro hDigested later current hLater hRetained
    have hHolds := holds_of_new hLater hRetained
    refine ⟨unprotect_eq hIdeal hHolds hContext hSize, ?_, ?_⟩
    · intro reference
      simp only [matchesReference_iff hIdeal hHolds hContext hSize hDigested, true_and]
    · intro other hOther
      refine ⟨?_, fun reference h => hOther
        ((matchesReference_iff hIdeal hHolds hContext hSize hDigested reference).mp h).1⟩
      refine Option.eq_none_iff_forall_ne_some.mpr ?_
      intro reference h
      exact hOther (unprotect_context hIdeal hHolds hContext hDigested h)
  · intro context other plaintext plaintext' hContext hOther
    refine ⟨?_, referenceMessage_inj hContext hOther⟩
    intro h
    exact (referenceAAD_inj hContext hOther (congrArg (· ++ []) h)).1

def sampleReferenceContext : ReferenceContext :=
  ⟨ascii "00000000-0000-4000-8000-000000000001", ascii "a1", 1, ascii "vault", ascii "r1"⟩

def sampleProtectionKey : ProtectionKey := ⟨List.replicate 32 1, List.replicate 32 2⟩

def sampleKeyRing : KeyRing := ⟨ascii "k1", Finmap.singleton (ascii "k1") sampleProtectionKey⟩

/-- One text has a digest of its own. -/
def sampleReferencePrimitives : ReferencePrimitives where
  gcmSeal _ _ text _ := text ++ List.replicate 16 0
  gcmOpen _ _ ciphertext _ := some (ciphertext.take (ciphertext.length - 16))
  hmac _ message := List.replicate 32
    (if message = referenceMessage (referenceAAD sampleReferenceContext) [7] then 1 else 0)

theorem sampleReferencePrimitives_ideal : IdealReferencePrimitives sampleReferencePrimitives
    {(sampleProtectionKey.hmacKey, referenceMessage (referenceAAD sampleReferenceContext) [7])} where
  overhead _ _ _ _ := by simp [sampleReferencePrimitives]
  opens _ _ _ _ := by simp [sampleReferencePrimitives]
  digestSize _ _ := by simp [sampleReferencePrimitives]
  separates hDigested h := by
    obtain ⟨_, rfl⟩ := Prod.mk.inj hDigested
    by_contra hOther
    simp [sampleReferencePrimitives, hOther] at h

theorem sample_reference_is_bound : ∃ stored,
    protect sampleReferencePrimitives ⟨ascii "k1", sampleKeyRing.keys, false⟩ sampleReferenceContext (some [7])
      (some ⟨List.replicate 12 3, rfl⟩) = some stored ∧
    unprotect sampleReferencePrimitives ⟨ascii "k1", sampleKeyRing.keys, false⟩ sampleReferenceContext stored =
      some (some [7]) := by
  have hNew : newAESGCMProtector sampleKeyRing = some ⟨ascii "k1", sampleKeyRing.keys, false⟩ := by decide +kernel
  obtain ⟨key, hKey, hProtect⟩ := (references_are_bound_to_their_context sampleReferencePrimitives_ideal hNew).1
  obtain rfl := Option.some.inj (Finmap.lookup_singleton_eq.symm.trans hKey)
  obtain ⟨stored, hStored, hBound⟩ := hProtect sampleReferenceContext [7] ⟨List.replicate 12 3, rfl⟩ (by decide +kernel)
    (by decide)
  exact ⟨stored, hStored, (hBound rfl sampleKeyRing _ hNew Finmap.lookup_singleton_eq).1⟩

end AiopsSystem.Credential.Protection
