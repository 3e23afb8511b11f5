import AiopsSystem.Go.Attempt
import AiopsSystem.Go.Utf8

/-! # The size of a plan manifest on the wire

`countManifestWire` adds up the pieces of the JSON text of a manifest without
building the text, and stops adding once the limit is passed. It ranges over nil
and empty lists alike, while the encoder writes `null` for the one and `[]` for
the other.
-/

namespace AiopsSystem.InvestigationPlan

open Go List

/-- A slice; `none` is a nil one. -/
abbrev Slice (α : Type) := Option (List α)

structure LabelMatch where
  (key value : GoString)

structure TaskDefinition where
  (key connectorID operation : GoString)
  input : Slice UInt8

structure Scope where
  (tenantID workspaceID environmentID serviceID : GoString)

structure MatchDefinition where
  (integrationID provider : GoString)
  labels : Slice LabelMatch

structure ProfileDefinition where
  scope : Scope
  matching : MatchDefinition
  tasks : Slice TaskDefinition

structure Definition where
  registryDigest : GoString
  profiles : Slice ProfileDefinition

def manifestSchemaVersion : GoString := ascii "investigation-plan-manifest.v1"

def maxInvestigationJSONBytes : Nat := 64 * 1024

/-! ## The encoder -/

-- The text of a JSON document without its spaces and with HTML escapes, none when it is not valid JSON.
variable (compact : GoString → Option GoString)

/-- `json.Marshal` of a `RawMessage` -/
def marshalRawMessage : Slice UInt8 → Option GoString
  | none => some (ascii "null")
  | some value => compact value

def encodeString (value : GoString) : GoString := Json.quote (decodeRunes value)

/-- The names have nothing to escape. -/
def encodeObject (fields : List (String × GoString)) : GoString :=
  123 :: (joinByte 44 (fields.map fun field => 34 :: (ascii field.1 ++ 34 :: 58 :: field.2)) ++ [125])

def encodeSlice {α : Type} (encode : α → GoString) : Slice α → GoString
  | none => ascii "null"
  | some items => 91 :: (joinByte 44 (items.map encode) ++ [93])

def encodeLabel (label : LabelMatch) : GoString :=
  encodeObject [("key", encodeString label.key), ("value", encodeString label.value)]

def encodeTask (task : TaskDefinition) : GoString :=
  encodeObject [("key", encodeString task.key), ("connector_id", encodeString task.connectorID),
    ("operation", encodeString task.operation), ("input", (marshalRawMessage compact task.input).getD [])]

def encodeScope (scope : Scope) : GoString :=
  encodeObject [("tenant_id", encodeString scope.tenantID), ("workspace_id", encodeString scope.workspaceID),
    ("environment_id", encodeString scope.environmentID), ("service_id", encodeString scope.serviceID)]

def encodeMatch (matching : MatchDefinition) : GoString :=
  encodeObject [("integration_id", encodeString matching.integrationID), ("provider", encodeString matching.provider),
    ("labels", encodeSlice encodeLabel matching.labels)]

def encodeProfile (profile : ProfileDefinition) : GoString :=
  encodeObject [("scope", encodeScope profile.scope), ("match", encodeMatch profile.matching),
    ("tasks", encodeSlice (encodeTask compact) profile.tasks)]

/-- `json.Marshal` of the `manifestDocument` of a definition whose inputs are valid JSON. -/
def encodeManifest (definition : Definition) : GoString :=
  encodeObject [("schema_version", encodeString manifestSchemaVersion),
    ("registry_digest", encodeString definition.registryDigest),
    ("profiles", encodeSlice (encodeProfile compact) definition.profiles)]

/-! ## The counter -/

inductive ManifestWireError where
  | invalidManifestWire
deriving DecidableEq

structure ManifestWireCounter where
  (total limit : Int)
  overflow : Bool
deriving DecidableEq

namespace ManifestWireCounter

def addSize (counter : ManifestWireCounter) (size : Int) : ManifestWireCounter :=
  if counter.overflow = true ∨ size < 0 ∨ counter.limit < size ∨ counter.limit - size < counter.total then
    { counter with overflow := true }
  else { counter with total := counter.total + size }

def characterSize (character : UInt8) : Int :=
  if character = 92 ∨ character = 34 ∨ character = 8 ∨ character = 12 ∨ character = 10 ∨ character = 13 ∨
      character = 9 then 2
  else if character = 60 ∨ character = 62 ∨ character = 38 then 6
  else if character < 0x20 then 6
  else 1

/-- The loop of `addString`; every turn takes at least one byte. -/
def scanString : Nat → ManifestWireCounter → GoString → ManifestWireCounter
  | 0, counter, _ => counter
  | _ + 1, counter, [] => counter
  | turns + 1, counter, character :: rest =>
    if character < 0x80 then scanString turns (counter.addSize (characterSize character)) rest
    else
      let (runeValue, width) := decodeRune (character :: rest)
      scanString turns (counter.addSize (if runeValue = 0x2028 ∨ runeValue = 0x2029 then 6 else width))
        ((character :: rest).drop width)

def addLiteral (counter : ManifestWireCounter) (value : String) : ManifestWireCounter :=
  counter.addSize (ascii value).length

def addString (counter : ManifestWireCounter) (value : GoString) : Except ManifestWireError ManifestWireCounter := do
  if counter.overflow = true then return counter
  let counter := counter.addSize 2
  if counter.overflow = true then return counter
  if counter.limit - counter.total < value.length then return { counter with overflow := true }
  require (utf8Valid value = true) .invalidManifestWire
  return scanString value.length counter value

def addRawMessage (counter : ManifestWireCounter) (value : Slice UInt8) :
    Except ManifestWireError ManifestWireCounter := do
  if counter.overflow = true then return counter
  require ((value.getD []).length ≤ maxInvestigationJSONBytes) .invalidManifestWire
  let encoded ← orFail (marshalRawMessage compact value) .invalidManifestWire
  return counter.addSize encoded.length

end ManifestWireCounter

/-- A call of `countManifestWire` on its counter. -/
inductive WireCall where
  | addLiteral (value : String)
  | addString (value : GoString)
  | addRawMessage (value : Slice UInt8)

def ManifestWireCounter.perform (counter : ManifestWireCounter) :
    WireCall → Except ManifestWireError ManifestWireCounter
  | .addLiteral value => .ok (counter.addLiteral value)
  | .addString value => counter.addString value
  | .addRawMessage value => counter.addRawMessage compact value

/-- The calls of a `range` loop, with a comma before every item but the first. -/
def separated {α : Type} (calls : α → List WireCall) : Nat → List α → List WireCall
  | _, [] => []
  | index, item :: rest =>
    (if 0 < index then [.addLiteral ","] else []) ++ (calls item ++ separated calls (index + 1) rest)

def labelCalls (label : LabelMatch) : List WireCall :=
  [.addLiteral "\x7b\"key\":", .addString label.key, .addLiteral ",\"value\":", .addString label.value,
    .addLiteral "\x7d"]

def taskCalls (task : TaskDefinition) : List WireCall :=
  [.addLiteral "\x7b\"key\":", .addString task.key, .addLiteral ",\"connector_id\":", .addString task.connectorID,
    .addLiteral ",\"operation\":", .addString task.operation, .addLiteral ",\"input\":", .addRawMessage task.input,
    .addLiteral "\x7d"]

def profileCalls (profile : ProfileDefinition) : List WireCall :=
  [.addLiteral "\x7b\"scope\":\x7b\"tenant_id\":", .addString profile.scope.tenantID,
    .addLiteral ",\"workspace_id\":", .addString profile.scope.workspaceID,
    .addLiteral ",\"environment_id\":", .addString profile.scope.environmentID,
    .addLiteral ",\"service_id\":", .addString profile.scope.serviceID,
    .addLiteral "\x7d,\"match\":\x7b\"integration_id\":", .addString profile.matching.integrationID,
    .addLiteral ",\"provider\":", .addString profile.matching.provider, .addLiteral ",\"labels\":["] ++
  separated labelCalls 0 (profile.matching.labels.getD []) ++ .addLiteral "]\x7d,\"tasks\":[" ::
  separated taskCalls 0 (profile.tasks.getD []) ++ [.addLiteral "]\x7d"]

def manifestCalls (definition : Definition) : List WireCall :=
  [.addLiteral "\x7b\"schema_version\":", .addString manifestSchemaVersion, .addLiteral ",\"registry_digest\":",
    .addString definition.registryDigest, .addLiteral ",\"profiles\":["] ++
  separated profileCalls 0 (definition.profiles.getD []) ++ [.addLiteral "]\x7d"]

/-- An error returns at once, with the calls that would have followed left out. -/
def countManifestWire (definition : Definition) (limit : Int) : Except ManifestWireError (Int × Bool) := do
  require (0 ≤ limit) .invalidManifestWire
  let counter ← (manifestCalls definition).foldlM (ManifestWireCounter.perform compact) ⟨0, limit, false⟩
  return (counter.total, counter.overflow)

/-! ## What is counted -/

/-- The counter after `size` bytes: the exact number as long as it is within the limit. -/
def Counts (limit : Int) (counter : ManifestWireCounter) (size : Nat) : Prop :=
  counter.limit = limit ∧
    if size ≤ limit then counter.total = size ∧ counter.overflow = false else counter.overflow = true

variable {limit : Int} {counter : ManifestWireCounter} {size : Nat}

theorem Counts.addSize (h : Counts limit counter size) (added : Nat) :
    Counts limit (counter.addSize added) (size + added) := by
  obtain ⟨rfl, h⟩ := h
  unfold Counts ManifestWireCounter.addSize
  split at h <;> split <;> split <;> simp_all <;> omega

theorem characterSize_eq {character : UInt8} (h : character < 0x80) :
    ManifestWireCounter.characterSize character = (Json.escapeRune character.toNat).length ∧
      1 ≤ (Json.escapeRune character.toNat).length := by
  have hAll : ∀ n < 128, ManifestWireCounter.characterSize (UInt8.ofNat n) = (Json.escapeRune n).length ∧
      1 ≤ (Json.escapeRune n).length := by
    decide +kernel
  simpa using hAll character.toNat (UInt8.lt_iff_toNat_lt.mp h)

theorem escapeRune_length {rune : Nat} (h : 0x80 ≤ rune) :
    (Json.escapeRune rune).length = (if rune = 0x2028 ∨ rune = 0x2029 then 6 else (Json.encodeRune rune).length) ∧
      (Json.encodeRune rune).length ≤ (Json.escapeRune rune).length := by
  by_cases hLine : rune = 0x2028 ∨ rune = 0x2029
  · rcases hLine with rfl | rfl <;> decide
  · unfold Json.escapeRune
    iterate 8 rw [if_neg (by omega)]
    rw [if_neg hLine]
    exact ⟨rfl, Nat.le_refl _⟩

/-- The scan of a valid string counts its escaped text, which is at least as long as the string. -/
theorem scanString_counts {value : GoString} {turns : Nat} (hTurns : value.length ≤ turns) (hValid : utf8Valid value) :
    value.length ≤ ((decodeRunes value).flatMap Json.escapeRune).length ∧
      ∀ counter size, Counts limit counter size →
        Counts limit (counter.scanString turns value) (size + ((decodeRunes value).flatMap Json.escapeRune).length) := by
  induction turns generalizing value with
  | zero =>
    obtain rfl := eq_nil_of_length_eq_zero (Nat.le_zero.mp hTurns)
    exact ⟨Nat.le_refl 0, fun _ _ h => h⟩
  | succ turns ih =>
    cases value with
    | nil => exact ⟨Nat.le_refl 0, fun _ _ h => h⟩
    | cons character rest =>
      simp only [length_cons] at hTurns
      simp only [ManifestWireCounter.scanString]
      by_cases hAscii : character < 0x80
      · obtain ⟨hSize, hLong⟩ := characterSize_eq hAscii
        rw [utf8Valid.eq_def] at hValid
        rw [decodeRunes.eq_def]
        simp only [if_pos hAscii, flatMap_cons, length_append, length_cons, hSize, ← Nat.add_assoc] at hValid ⊢
        obtain ⟨hBound, hCounts⟩ := ih (by omega) hValid
        exact ⟨by omega, fun _ _ h => hCounts _ _ (h.addSize _)⟩
      · obtain ⟨rune, width, hRune, hLarge, hLength, hWide, hFits, hRunes, hRest⟩ := decodeRune_spec hAscii hValid
        obtain ⟨hSize, hLong⟩ := escapeRune_length hLarge
        have hDropped : ((character :: rest).drop width).length = rest.length + 1 - width := length_drop
        obtain ⟨hBound, hCounts⟩ := ih (by omega) hRest
        simp only [if_neg hAscii, hRunes, hRune, flatMap_cons, length_append, length_cons, ← Nat.add_assoc]
        refine ⟨by omega, ?_⟩
        intro counter size h
        have hAdded := hCounts _ _ (h.addSize (Json.escapeRune rune).length)
        rw [hSize, hLength] at hAdded ⊢
        simpa only [Nat.cast_ite, Nat.cast_ofNat] using hAdded

theorem Counts.overflowed (h : Counts limit counter size) (hOverflow : counter.overflow) (added : Nat) :
    Counts limit counter (size + added) := by
  obtain ⟨hLimit, h⟩ := h
  refine ⟨hLimit, ?_⟩
  split at h
  · simp [hOverflow] at h
  · rw [if_neg (by omega)]
    exact hOverflow

theorem Counts.addString {value : GoString} (h : Counts limit counter size) (hValid : utf8Valid value) :
    ∃ counter', counter.addString value = .ok counter' ∧ Counts limit counter' (size + (encodeString value).length) := by
  obtain ⟨hBound, hCounts⟩ := @scanString_counts limit value _ (Nat.le_refl _) hValid
  have hLength : (encodeString value).length = 2 + ((decodeRunes value).flatMap Json.escapeRune).length := by
    simp [encodeString, Json.quote]
    omega
  unfold ManifestWireCounter.addString
  rw [hLength]
  split
  · exact ⟨_, rfl, h.overflowed ‹_› _⟩
  · have hQuotes : Counts limit (counter.addSize 2) (size + 2) := h.addSize 2
    rw [← Nat.add_assoc]
    dsimp only
    split
    · exact ⟨_, rfl, hQuotes.overflowed ‹_› _⟩
    · rename_i hWithin
      split
      · refine ⟨_, rfl, hQuotes.1, ?_⟩
        have hTotal := hQuotes.2
        rw [hQuotes.1] at *
        split at hTotal
        · rw [if_neg (by omega)]
        · exact absurd hTotal hWithin
      · rw [require_of hValid]
        exact ⟨_, rfl, hCounts _ _ hQuotes⟩

def WireCall.Valid : WireCall → Prop
  | .addLiteral _ => True
  | .addString value => utf8Valid value = true
  | .addRawMessage value =>
    (value.getD []).length ≤ maxInvestigationJSONBytes ∧ (marshalRawMessage compact value).isSome = true

def WireCall.bytes : WireCall → Nat
  | .addLiteral value => (ascii value).length
  | .addString value => (encodeString value).length
  | .addRawMessage value => ((marshalRawMessage compact value).getD []).length

def wireSize (calls : List WireCall) : Nat := (calls.map (WireCall.bytes compact)).sum

variable {compact}

theorem Counts.perform {call : WireCall} (h : Counts limit counter size) (hValid : call.Valid compact) :
    ∃ counter', counter.perform compact call = .ok counter' ∧ Counts limit counter' (size + call.bytes compact) := by
  cases call with
  | addLiteral value => exact ⟨_, rfl, h.addSize _⟩
  | addString value => exact h.addString hValid
  | addRawMessage value =>
    obtain ⟨hShort, hSome⟩ := hValid
    obtain ⟨encoded, hEncoded⟩ := Option.isSome_iff_exists.mp hSome
    simp only [ManifestWireCounter.perform, ManifestWireCounter.addRawMessage, WireCall.bytes, hEncoded, Option.getD_some]
    split
    · exact ⟨_, rfl, h.overflowed ‹_› _⟩
    · rw [require_of hShort]
      exact ⟨_, rfl, h.addSize _⟩

theorem Counts.foldlM {calls : List WireCall} (hValid : ∀ call ∈ calls, call.Valid compact)
    (h : Counts limit counter size) :
    ∃ counter', calls.foldlM (ManifestWireCounter.perform compact) counter = .ok counter' ∧
      Counts limit counter' (size + wireSize compact calls) := by
  induction calls generalizing counter size with
  | nil => exact ⟨counter, rfl, h⟩
  | cons call calls ih =>
    obtain ⟨hCall, hCalls⟩ := forall_mem_cons.mp hValid
    obtain ⟨next, hNext, hCounts⟩ := h.perform hCall
    obtain ⟨last, hLast, hCounts⟩ := ih hCalls hCounts
    refine ⟨last, ?_, ?_⟩
    · rw [foldlM_cons, hNext]
      exact hLast
    · rwa [Nat.add_assoc] at hCounts

/-! ## The calls and the text -/

section Text

variable {α : Type} {calls : α → List WireCall} {encode : α → GoString}

theorem wireSize_separated_succ {items : List α} (index : Nat)
    (hSize : ∀ item ∈ items, wireSize compact (calls item) = (encode item).length) :
    wireSize compact (separated calls (index + 1) items) = ((items.map encode).flatMap (44 :: ·)).length := by
  induction items generalizing index with
  | nil => rfl
  | cons item items ih =>
    obtain ⟨hItem, hItems⟩ := forall_mem_cons.mp hSize
    have hItems := ih (index + 1) hItems
    simp only [wireSize] at hItem hItems ⊢
    simp [separated, WireCall.bytes, hItem, hItems, ascii]
    omega

theorem joinByte_cons (separator : UInt8) (part : GoString) (parts : List GoString) :
    joinByte separator (part :: parts) = part ++ parts.flatMap (separator :: ·) := by
  induction parts generalizing part with
  | nil => simp [joinByte]
  | cons next parts ih => simp [joinByte, ih]

theorem wireSize_separated {items : List α}
    (hSize : ∀ item ∈ items, wireSize compact (calls item) = (encode item).length) :
    wireSize compact (separated calls 0 items) = (joinByte 44 (items.map encode)).length := by
  cases items with
  | nil => rfl
  | cons item items =>
    obtain ⟨hItem, hItems⟩ := forall_mem_cons.mp hSize
    have hItems := wireSize_separated_succ 0 hItems
    simp only [wireSize] at hItem hItems ⊢
    simp [separated, joinByte_cons, hItem, hItems]

theorem wireSize_labelCalls (label : LabelMatch) : wireSize compact (labelCalls label) = (encodeLabel label).length := by
  simp [wireSize, labelCalls, WireCall.bytes, encodeLabel, encodeObject, joinByte, ascii]
  omega

theorem wireSize_taskCalls (task : TaskDefinition) :
    wireSize compact (taskCalls task) = (encodeTask compact task).length := by
  simp [wireSize, taskCalls, WireCall.bytes, encodeTask, encodeObject, joinByte, ascii]
  omega

theorem encodeSlice_length {items : Slice α} (h : items ≠ none) (encode : α → GoString) :
    (encodeSlice encode items).length = (joinByte 44 ((items.getD []).map encode)).length + 2 := by
  cases items with
  | none => exact absurd rfl h
  | some items => simp [encodeSlice]

theorem wireSize_profileCalls {profile : ProfileDefinition} (hLabels : profile.matching.labels ≠ none)
    (hTasks : profile.tasks ≠ none) :
    wireSize compact (profileCalls profile) = (encodeProfile compact profile).length := by
  have hLabel := wireSize_separated fun label (_ : label ∈ profile.matching.labels.getD []) =>
    @wireSize_labelCalls compact label
  have hTask := wireSize_separated fun task (_ : task ∈ profile.tasks.getD []) => @wireSize_taskCalls compact task
  simp only [wireSize] at hLabel hTask
  simp [wireSize, profileCalls, WireCall.bytes, ascii, encodeProfile, encodeScope, encodeMatch, encodeObject, joinByte,
    encodeSlice_length hLabels, encodeSlice_length hTasks, hLabel, hTask]
  clear hLabel hTask
  omega

end Text

/-! ## Definitions -/

namespace Definition

variable (definition : Definition)

def strings : List GoString :=
  definition.registryDigest :: (definition.profiles.getD []).flatMap fun profile =>
    [profile.scope.tenantID, profile.scope.workspaceID, profile.scope.environmentID, profile.scope.serviceID,
      profile.matching.integrationID, profile.matching.provider] ++
    (profile.matching.labels.getD []).flatMap (fun label => [label.key, label.value]) ++
    (profile.tasks.getD []).flatMap fun task => [task.key, task.connectorID, task.operation]

def inputs : List (Slice UInt8) :=
  (definition.profiles.getD []).flatMap fun profile => (profile.tasks.getD []).map TaskDefinition.input

/-- No list is a nil slice. -/
def Listed : Prop :=
  definition.profiles ≠ none ∧
    ∀ profile ∈ definition.profiles.getD [], profile.matching.labels ≠ none ∧ profile.tasks ≠ none

end Definition

theorem separated_valid {α : Type} {calls : α → List WireCall} {items : List α} {index : Nat} :
    (∀ call ∈ separated calls index items, call.Valid compact) ↔
      ∀ item ∈ items, ∀ call ∈ calls item, call.Valid compact := by
  induction items generalizing index with
  | nil => simp [separated]
  | cons item items ih =>
    simp only [separated, forall_mem_append, forall_mem_cons, ih, and_iff_right_iff_imp]
    intro _
    split <;> simp [WireCall.Valid]

theorem manifestCalls_valid {definition : Definition} (hStrings : ∀ value ∈ definition.strings, utf8Valid value)
    (hInputs : ∀ input ∈ definition.inputs, (WireCall.addRawMessage input).Valid compact) :
    ∀ call ∈ manifestCalls definition, call.Valid compact := by
  have hVersion : utf8Valid manifestSchemaVersion := by decide +kernel
  simp only [Definition.strings, Definition.inputs, forall_mem_cons, forall_mem_flatMap, forall_mem_append,
    forall_mem_map, not_mem_nil, false_imp_iff, implies_true, and_true] at hStrings hInputs
  obtain ⟨hDigest, hProfiles⟩ := hStrings
  simp only [manifestCalls, profileCalls, labelCalls, taskCalls, forall_mem_append, forall_mem_cons,
    separated_valid, not_mem_nil, false_imp_iff, implies_true, and_true]
  simp only [WireCall.Valid, hVersion, true_and, and_true] at hInputs ⊢
  refine ⟨hDigest, fun profile hProfile => ⟨(hProfiles profile hProfile).1, ?_⟩⟩
  intro task hTask
  obtain ⟨hKey, hConnector, hOperation⟩ := (hProfiles profile hProfile).2 task hTask
  exact ⟨hKey, hConnector, hOperation, hInputs profile hProfile task hTask⟩

theorem wireSize_manifestCalls {definition : Definition} (h : definition.Listed) :
    wireSize compact (manifestCalls definition) = (encodeManifest compact definition).length := by
  obtain ⟨hSlice, hProfiles⟩ := h
  have hProfile := wireSize_separated fun profile hMem =>
    @wireSize_profileCalls compact profile (hProfiles profile hMem).1 (hProfiles profile hMem).2
  simp only [wireSize] at hProfile
  simp [wireSize, manifestCalls, WireCall.bytes, ascii, encodeManifest, encodeObject, joinByte, encodeSlice_length hSlice,
    hProfile]
  clear hProfile
  omega

theorem counts_manifest {definition : Definition} (hLimit : 0 ≤ limit)
    (hStrings : ∀ value ∈ definition.strings, utf8Valid value)
    (hInputs : ∀ input ∈ definition.inputs, (WireCall.addRawMessage input).Valid compact) :
    ∃ counter, countManifestWire compact definition limit = .ok (counter.total, counter.overflow) ∧
      Counts limit counter (wireSize compact (manifestCalls definition)) := by
  have hStart : Counts limit ⟨0, limit, false⟩ 0 := by simp [Counts, hLimit]
  obtain ⟨counter, hRun, hCounts⟩ := hStart.foldlM (manifestCalls_valid hStrings hInputs)
  rw [Nat.zero_add] at hCounts
  refine ⟨counter, ?_, hCounts⟩
  rw [countManifestWire, require_of hLimit, ok_bind, hRun]
  rfl

/-- The counter gives the length of the text up to the limit and reports every longer one; it fails only on a string that
is not UTF-8 or an input that is too long or not JSON. -/
theorem manifest_size_exact (compact : GoString → Option GoString) (definition : Definition) {limit : Int}
    (hLimit : 0 ≤ limit) :
    (definition.Listed → (∀ value ∈ definition.strings, utf8Valid value = true) →
      (∀ input ∈ definition.inputs, (input.getD []).length ≤ maxInvestigationJSONBytes ∧
        (marshalRawMessage compact input).isSome = true) →
      ((encodeManifest compact definition).length ≤ limit →
        countManifestWire compact definition limit = .ok ((encodeManifest compact definition).length, false)) ∧
      (limit < (encodeManifest compact definition).length →
        ∃ total, countManifestWire compact definition limit = .ok (total, true))) ∧
    ∀ failure, countManifestWire compact definition limit = .error failure →
      (∃ value ∈ definition.strings, utf8Valid value = false) ∨
      ∃ input ∈ definition.inputs, maxInvestigationJSONBytes < (input.getD []).length ∨
        marshalRawMessage compact input = none := by
  constructor
  · intro hListed hStrings hInputs
    obtain ⟨counter, hCount, _, hCounts⟩ := counts_manifest hLimit hStrings hInputs
    rw [wireSize_manifestCalls hListed] at hCounts
    rw [hCount]
    split at hCounts
    · rename_i hWithin
      exact ⟨fun _ => by rw [hCounts.1, hCounts.2], fun hOver => absurd hWithin (not_le.mpr hOver)⟩
    · rename_i hOver
      exact ⟨fun hWithin => absurd hWithin hOver, fun _ => ⟨_, by rw [hCounts]⟩⟩
  · intro failure hFailure
    by_contra hAll
    push Not at hAll
    have hStrings : ∀ value ∈ definition.strings, utf8Valid value = true := by simpa using hAll.1
    have hInputs : ∀ input ∈ definition.inputs, (WireCall.addRawMessage input).Valid compact :=
      fun input hInput => ⟨(hAll.2 input hInput).1, Option.isSome_iff_ne_none.mpr (hAll.2 input hInput).2⟩
    obtain ⟨counter, hCount, _⟩ := counts_manifest hLimit hStrings hInputs
    cases hCount.symm.trans hFailure

/-- One profile with a label whose value is U+2028. -/
def sampleDefinition : Definition where
  registryDigest := ascii "<\n"
  profiles := some [{
    scope := ⟨[], [], [], []⟩
    matching := ⟨[], [], some [⟨ascii "k", [0xE2, 0x80, 0xA8]⟩]⟩
    tasks := some [⟨[], [], [], some [49]⟩] }]

theorem manifest_size_exact_sample :
    countManifestWire some sampleDefinition (encodeManifest some sampleDefinition).length =
      .ok ((encodeManifest some sampleDefinition).length, false) := by
  have hListed : sampleDefinition.Listed := by simp [Definition.Listed, sampleDefinition]
  have hStrings : ∀ value ∈ sampleDefinition.strings, utf8Valid value = true := by decide +kernel
  have hInputs : ∀ input ∈ sampleDefinition.inputs, (input.getD []).length ≤ maxInvestigationJSONBytes ∧
      (marshalRawMessage some input).isSome = true := by
    simp [Definition.inputs, sampleDefinition, marshalRawMessage, maxInvestigationJSONBytes]
  exact ((manifest_size_exact some _ (Int.natCast_nonneg _)).1 hListed hStrings hInputs).1 (Int.le_refl _)

/-- The encoder writes `null` for the nil list, two bytes more than are counted. -/
theorem nil_profiles_are_undercounted :
    (encodeManifest some ⟨[], none⟩).length = 88 ∧ countManifestWire some ⟨[], none⟩ 87 = .ok (86, false) := by
  have hEmpty : (encodeString []).length = 2 := rfl
  have hVersion : (encodeString manifestSchemaVersion).length = 32 := by
    rw [encodeString, decodeRunes_ascii (by decide +kernel)]
    decide +kernel
  have hSize : wireSize some (manifestCalls ⟨[], none⟩) = 86 := by
    simp [wireSize, manifestCalls, WireCall.bytes, separated, ascii, hEmpty, hVersion]
  constructor
  · simp [encodeManifest, encodeObject, joinByte, encodeSlice, ascii, hEmpty, hVersion]
  · have hCount := @counts_manifest some 87 ⟨[], none⟩ (by decide) (by simp [Definition.strings, utf8Valid])
      (by simp [Definition.inputs])
    rw [hSize] at hCount
    obtain ⟨counter, hCount, _, hTotal, hOverflow⟩ := hCount
    rw [hCount, hTotal, hOverflow]
    rfl

end AiopsSystem.InvestigationPlan
