import AiopsSystem.CsvImport.Parser
import AiopsSystem.Go.Loop

/-! # Paging of a CSV import

Every call reads the whole file, so what it accepts does not depend on the page it returns: a page is a window of
the rows of the file. The windows that the checkpoints select follow one another without gap or overlap.
-/

namespace AiopsSystem.CsvImport

open Go AssetCatalog List

/-- `size` rows after the first `offset`. -/
def window {α : Type} (rows : List α) (offset size : Nat) : List α := (rows.drop offset).take size

section Window

variable {α : Type} {rows : List α} {offset size : Nat}

theorem window_append_before (row : α) (h : rows.length < offset) :
    window (rows ++ [row]) offset size = window rows offset size := by
  unfold window
  rw [drop_eq_nil_of_le (by simp; omega), drop_eq_nil_of_le (by omega)]

theorem window_append_after (row : α) (h : offset + size ≤ rows.length) :
    window (rows ++ [row]) offset size = window rows offset size := by
  unfold window
  rw [drop_append_of_le_length (by omega), take_append_of_le_length (by simp; omega)]

theorem window_append_inside (row : α) (hOffset : offset ≤ rows.length) (hSize : rows.length < offset + size) :
    window (rows ++ [row]) offset size = window rows offset size ++ [row] := by
  unfold window
  rw [drop_append_of_le_length hOffset, take_of_length_le (by simp; omega), take_of_length_le (by simp; omega)]

theorem length_window : (window rows offset size).length = min size (rows.length - offset) := by
  simp [window]

theorem flatMap_window (rows : List α) (size count : Nat) :
    (List.range count).flatMap (fun index => window rows (index * size) size) = rows.take (count * size) := by
  induction count with
  | zero => simp
  | succ _ ih =>
    rw [range_succ, flatMap_append, ih, Nat.succ_mul, take_add]
    simp [window]

end Window

section Scan

variable (library : Library) (effective : Limits)

def readRow (passed : List ParsedRecord) (read : Option (List GoString)) : Except ParseError ParsedRecord := do
  let record ← orFail read .invalidSchema
  require ((passed.length : Int) + 1 ≤ maxRows) .limitExceeded
  validateRecordFields library record
  let parsed ← parseRecord library effective.authorityEnvironmentIDs record
  require (parsed.identity ∉ (passed.map ParsedRecord.identity).reverse) .duplicateObject
  return parsed

def readFile (reads : List (Option (List GoString))) : Except ParseError (List ParsedRecord) :=
  reads.foldlM (fun passed read => (readRow library effective passed read).map (fun parsed => passed ++ [parsed])) []

def scanOf (offset size : Nat) (passed : List ParsedRecord) : Scan where
  totalRows := passed.length
  seen := (passed.map ParsedRecord.identity).reverse
  items := (window passed offset size).map ParsedRecord.item
  relations := (window passed offset size).flatMap (fun parsed => parsed.relation.toList)

theorem scanOf_append {offset size : Nat} (passed : List ParsedRecord) (parsed : ParsedRecord) :
    scanOf offset size (passed ++ [parsed]) =
      if (passed.length : Int) + 1 < offset + 1 ∨ (offset + 1 : Int) + size ≤ passed.length + 1 then
        { scanOf offset size passed with
          totalRows := passed.length + 1
          seen := parsed.identity :: (passed.map ParsedRecord.identity).reverse }
      else
        { totalRows := passed.length + 1
          seen := parsed.identity :: (passed.map ParsedRecord.identity).reverse
          items := (scanOf offset size passed).items ++ [parsed.item]
          relations := (scanOf offset size passed).relations ++ parsed.relation.toList } := by
  split
  · rename_i hOutside
    have hWindow : window (passed ++ [parsed]) offset size = window passed offset size := by
      rcases hOutside with hBefore | hAfter
      · exact window_append_before parsed (by omega)
      · exact window_append_after parsed (by omega)
    simp [scanOf, hWindow]
  · rename_i hInside
    obtain ⟨hOffset, hSize⟩ := not_or.mp hInside
    have hWindow := window_append_inside parsed (show offset ≤ passed.length by omega)
      (show passed.length < offset + size by omega)
    simp [scanOf, hWindow]

theorem scanRecord_scanOf {offset size : Nat} (hSize : effective.maxRowsPerPage = size) (passed : List ParsedRecord)
    (read : Option (List GoString)) :
    scanRecord library effective (offset + 1) (scanOf offset size passed) read =
      (readRow library effective passed read).map (fun parsed => scanOf offset size (passed ++ [parsed])) := by
  unfold scanRecord readRow
  cases read with
  | none => rfl
  | some record =>
    rw [orFail_some, ok_bind, ok_bind]
    have hTotal : (scanOf offset size passed).totalRows = passed.length := rfl
    have hSeen : (scanOf offset size passed).seen = (passed.map ParsedRecord.identity).reverse := rfl
    simp only [hTotal, hSeen, hSize]
    by_cases hRows : (passed.length : Int) + 1 ≤ maxRows
    · rw [require_of hRows, ok_bind, ok_bind]
      cases validateRecordFields library record with
      | error => rfl
      | ok =>
        rw [ok_bind, ok_bind]
        cases parseRecord library effective.authorityEnvironmentIDs record with
        | error => rfl
        | ok parsed =>
          rw [ok_bind, ok_bind]
          by_cases hNew : parsed.identity ∉ (passed.map ParsedRecord.identity).reverse
          · rw [require_of hNew, ok_bind, ok_bind]
            change _ = Except.ok (scanOf offset size (passed ++ [parsed]))
            rw [scanOf_append]
            split <;> rfl
          · rw [require_of_not hNew]
            rfl
    · rw [require_of_not hRows]
      rfl

theorem foldlM_scanRecord {size : Nat} (hSize : effective.maxRowsPerPage = size) {startRow : Int} {offset : Nat}
    (hStart : startRow = offset + 1) (reads : List (Option (List GoString))) :
    reads.foldlM (scanRecord library effective startRow) Scan.empty =
      (readFile library effective reads).map (scanOf offset size) := by
  have hEmpty : Scan.empty = scanOf offset size [] := by simp [Scan.empty, scanOf, window]
  rw [hEmpty, readFile, hStart]
  refine foldlM_map ?_ reads []
  intro passed read
  rw [scanRecord_scanOf library effective hSize]
  cases readRow library effective passed read <;> rfl

end Scan

def pageAt (fileSHA256 : GoString) (rows : List ParsedRecord) (size offset : Nat) : Page where
  items := (window rows offset size).map ParsedRecord.item
  relations := (window rows offset size).flatMap (fun parsed => parsed.relation.toList)
  next := {
    fileSHA256 := fileSHA256
    schemaVersion := schemaVersion
    rowNumber := offset + 1 + (window rows offset size).length }
  finalPage := (rows.length : Int) < offset + 1 + (window rows offset size).length

structure Accepted (library : Library) (reader : Reader) (limits effective : Limits) (fileSHA256 : GoString)
    (rows : List ParsedRecord) (size : Nat) : Prop where
  limits : normalizeLimits limits = .ok effective
  size : effective.maxRowsPerPage = size
  file : ∃ csvPayload reads, readPayload reader none effective = .ok (csvPayload, fileSHA256) ∧
    library.records csvPayload = some header :: reads ∧ readFile library effective reads = .ok rows

theorem normalizeLimits_size {limits effective : Limits} (h : normalizeLimits limits = .ok effective) :
    1 ≤ effective.maxRowsPerPage := by
  simp only [normalizeLimits, bind_eq_ok, require_eq_ok] at h
  obtain ⟨_, hLimits, _, _, _, _, h⟩ := h
  cases h
  exact hLimits.1

theorem readPayload_ok {reader : Reader} {checkpoint : Option Checkpoint} {effective : Limits}
    {csvPayload fileSHA256 : GoString} :
    readPayload reader checkpoint effective = .ok (csvPayload, fileSHA256) ↔
      readPayload reader none effective = .ok (csvPayload, fileSHA256) ∧
        ∀ resumed ∈ checkpoint, resumed.fileSHA256 = fileSHA256 := by
  simp only [readPayload, bind_eq_ok, orFail_eq_ok, require_eq_ok]
  constructor
  · rintro ⟨payload, hRead, _, hLength, _, hValid, _, hDigest, _, hMark, h⟩
    cases h
    exact ⟨⟨payload, hRead, (), hLength, (), hValid, (), by simp, (), hMark, rfl⟩, hDigest⟩
  · rintro ⟨⟨payload, hRead, _, hLength, _, hValid, _, _, _, hMark, h⟩, hDigest⟩
    cases h
    exact ⟨payload, hRead, (), hLength, (), hValid, (), hDigest, (), hMark, rfl⟩

section Calls

variable {library : Library} {reader : Reader} {limits effective : Limits} {fileSHA256 : GoString}
  {rows : List ParsedRecord} {size : Nat} {page : Page}

def startRow (checkpoint : Option Checkpoint) : Int := (checkpoint.map (·.rowNumber)).getD 1

structure Resumable (fileSHA256 : GoString) (rows : List ParsedRecord) (size : Nat) (checkpoint : Checkpoint) : Prop where
  digest : matchesHex 64 checkpoint.fileSHA256 = true
  schema : checkpoint.schemaVersion = schemaVersion
  range : 1 ≤ checkpoint.rowNumber ∧ checkpoint.rowNumber ≤ maxRows + 1
  file : checkpoint.fileSHA256 = fileSHA256
  row : validCheckpointRow checkpoint.rowNumber rows.length size = true

theorem parse_ok {checkpoint : Option Checkpoint} :
    parse library (some reader) checkpoint limits = .ok page ↔
      ∃ effective fileSHA256 rows size offset, Accepted library reader limits effective fileSHA256 rows size ∧
        startRow checkpoint = (offset : Nat) + 1 ∧ (∀ resumed ∈ checkpoint, Resumable fileSHA256 rows size resumed) ∧
        page = pageAt fileSHA256 rows size offset := by
  constructor
  · intro h
    simp only [parse, bind_eq_ok, orFail_eq_ok, require_eq_ok] at h
    obtain ⟨effective, hLimits, _, hReader, _, hShape, ⟨csvPayload, fileSHA256⟩, hPayload, h⟩ := h
    cases hReader
    obtain ⟨hPayload, hFile⟩ := readPayload_ok.mp hPayload
    have hPositive := normalizeLimits_size hLimits
    obtain ⟨size, hSize⟩ := Int.eq_ofNat_of_zero_le (show 0 ≤ effective.maxRowsPerPage by omega)
    have hStart : 1 ≤ startRow checkpoint := by
      cases checkpoint with
      | none => decide
      | some resumed => exact (hShape resumed rfl).2.2.1
    obtain ⟨offset, hOffset⟩ := Int.eq_ofNat_of_zero_le (show 0 ≤ startRow checkpoint - 1 by omega)
    have hStart : startRow checkpoint = offset + 1 := by omega
    dsimp only at h
    split at h
    · rename_i first reads hRecords
      simp only [bind_eq_ok, require_eq_ok] at h
      obtain ⟨_, rfl, scan, hScan, _, hRow, h⟩ := h
      have hFold := foldlM_scanRecord library effective hSize hStart reads
      rw [startRow] at hFold hStart
      rw [hFold] at hScan
      cases hRows : readFile library effective reads with
      | error =>
        rw [hRows] at hScan
        cases hScan
      | ok rows =>
        rw [hRows] at hScan
        cases hScan
        refine ⟨effective, fileSHA256, rows, size, offset,
          ⟨hLimits, hSize, csvPayload, reads, hPayload, hRecords, hRows⟩, hStart, ?_, ?_⟩
        · rintro resumed rfl
          obtain ⟨hDigest, hSchema, hRange⟩ := hShape resumed rfl
          refine ⟨hDigest, hSchema, hRange, hFile resumed rfl, ?_⟩
          rcases hRow with hNone | hRow
          · cases hNone
          · rw [hSize] at hRow
            exact hRow
        · cases h
          simp [pageAt, scanOf, hStart]
    · cases h
  · rintro ⟨effective, fileSHA256, rows, size, offset, hAccepted, hStart, hResumable, rfl⟩
    obtain ⟨csvPayload, reads, hPayload, hRecords, hRows⟩ := hAccepted.file
    have hFold := foldlM_scanRecord library effective hAccepted.size hStart reads
    have hRead := readPayload_ok.mpr ⟨hPayload, fun resumed hMem => (hResumable resumed hMem).file⟩
    rw [startRow] at hFold hStart
    have hShape : ∀ resumed ∈ checkpoint, matchesHex 64 resumed.fileSHA256 ∧ resumed.schemaVersion = schemaVersion ∧
        1 ≤ resumed.rowNumber ∧ resumed.rowNumber ≤ maxRows + 1 := fun resumed hMem =>
      ⟨(hResumable resumed hMem).digest, (hResumable resumed hMem).schema, (hResumable resumed hMem).range⟩
    have hRow : checkpoint = none ∨ validCheckpointRow ((checkpoint.map (·.rowNumber)).getD 1)
        (scanOf offset size rows).totalRows effective.maxRowsPerPage := by
      cases checkpoint with
      | none => exact .inl rfl
      | some resumed =>
        rw [hAccepted.size]
        exact .inr (hResumable resumed rfl).row
    rw [parse, hAccepted.limits, ok_bind, orFail_some, ok_bind, require_of hShape, ok_bind, hRead, ok_bind]
    simp only [hRecords]
    rw [require_of trivial, ok_bind, hFold, hRows]
    change (require _ _ >>= _) = _
    rw [require_of hRow, ok_bind]
    simp [pageAt, scanOf, hStart, pure, Except.pure]

section

variable (h : Accepted library reader limits effective fileSHA256 rows size)

include h

theorem Accepted.unique {effective' : Limits} {fileSHA256' : GoString} {rows' : List ParsedRecord} {size' : Nat}
    (h' : Accepted library reader limits effective' fileSHA256' rows' size') :
    fileSHA256 = fileSHA256' ∧ rows = rows' ∧ size = size' := by
  have hEffective : effective = effective' := Except.ok.inj (h.limits.symm.trans h'.limits)
  subst hEffective
  obtain ⟨_, _, hPayload, hRecords, hRows⟩ := h.file
  obtain ⟨_, _, hPayload', hRecords', hRows'⟩ := h'.file
  obtain ⟨rfl, rfl⟩ := Prod.mk.inj (Except.ok.inj (hPayload.symm.trans hPayload'))
  obtain ⟨_, rfl⟩ := List.cons.inj (hRecords.symm.trans hRecords')
  exact ⟨rfl, Except.ok.inj (hRows.symm.trans hRows'), Int.ofNat_inj.mp (h.size.symm.trans h'.size)⟩

theorem Accepted.resume {checkpoint : Checkpoint} : parse library (some reader) (some checkpoint) limits = .ok page ↔
      Resumable fileSHA256 rows size checkpoint ∧
        ∃ offset : Nat, checkpoint.rowNumber = offset + 1 ∧ page = pageAt fileSHA256 rows size offset := by
  rw [parse_ok]
  constructor
  · rintro ⟨_, _, _, _, offset, hAccepted, hStart, hResumable, hPage⟩
    obtain ⟨rfl, rfl, rfl⟩ := h.unique hAccepted
    exact ⟨hResumable checkpoint rfl, offset, hStart, hPage⟩
  · rintro ⟨hResumable, offset, hStart, hPage⟩
    refine ⟨effective, fileSHA256, rows, size, offset, h, hStart, ?_, hPage⟩
    rintro _ hMem
    cases hMem
    exact hResumable

theorem Accepted.parse : parse library (some reader) none limits = .ok (pageAt fileSHA256 rows size 0) :=
  parse_ok.mpr ⟨effective, fileSHA256, rows, size, 0, h, rfl, fun _ hMem => (Option.not_mem_none _ hMem).elim, rfl⟩

end

end Calls

def pageCount (rows size : Nat) : Nat := max 1 ((rows + size - 1) / size)

section Arithmetic

variable {rows size index : Nat}

theorem lt_pageCount_iff (hSize : 0 < size) : index + 1 < pageCount rows size ↔ (index + 1) * size < rows := by
  have hQuotient : index + 1 < (rows + size - 1) / size ↔ (index + 1) * size < rows := by
    rw [← Nat.succ_le_iff, Nat.le_div_iff_mul_le hSize]
    have hMul : (index + 1).succ * size = (index + 1) * size + size := Nat.succ_mul _ _
    omega
  unfold pageCount
  rw [lt_max_iff, hQuotient]
  omega

theorem rows_le_pageCount_mul (hSize : 0 < size) : rows ≤ pageCount rows size * size := by
  by_contra hMore
  obtain ⟨index, hIndex⟩ : ∃ index, pageCount rows size = index + 1 := ⟨pageCount rows size - 1, by unfold pageCount; omega⟩
  rw [hIndex] at hMore
  have hLess := (lt_pageCount_iff hSize).mpr (not_le.mp hMore)
  omega

end Arithmetic

/-- `Parse`, then `Resume` with the checkpoint of the previous page until a page is final. -/
def followPages (library : Library) (reader : Option Reader) (limits : Limits) :
    Nat → Page → Except ParseError (List Page)
  | 0, page => .ok [page]
  | fuel + 1, page =>
    if page.finalPage then .ok [page]
    else do
      let next ← parse library reader (some page.next) limits
      let rest ← followPages library reader limits fuel next
      return page :: rest

def importPages (library : Library) (reader : Option Reader) (limits : Limits) (fuel : Nat) :
    Except ParseError (List Page) := do
  let first ← parse library reader none limits
  followPages library reader limits fuel first

section Pages

variable {library : Library} {reader : Reader} {limits effective : Limits} {fileSHA256 : GoString}
  {rows : List ParsedRecord} {size index : Nat}

def nthPage (fileSHA256 : GoString) (rows : List ParsedRecord) (size index : Nat) : Page :=
  pageAt fileSHA256 rows size (index * size)

theorem nthPage_inner (hInner : (index + 1) * size < rows.length) :
    (nthPage fileSHA256 rows size index).next.rowNumber = (index + 1) * size + 1 ∧
      (nthPage fileSHA256 rows size index).finalPage = false := by
  have hMul : (index + 1) * size = index * size + size := Nat.succ_mul _ _
  have hLength : (window rows (index * size) size).length = size := by
    rw [length_window]
    omega
  constructor
  · have hCast : ((index : Int) + 1) * size = index * size + size := by rw [Int.add_mul, Int.one_mul]
    simp only [nthPage, pageAt, hLength, hCast]
    push_cast
    omega
  · simp only [nthPage, pageAt, hLength, decide_eq_false_iff_not]
    omega

theorem nthPage_last (hStart : index * size ≤ rows.length) (hLast : rows.length ≤ (index + 1) * size) :
    (nthPage fileSHA256 rows size index).next.rowNumber = rows.length + 1 ∧
      (nthPage fileSHA256 rows size index).finalPage := by
  have hMul : (index + 1) * size = index * size + size := Nat.succ_mul _ _
  have hLength : (window rows (index * size) size).length = rows.length - index * size := by
    rw [length_window]
    omega
  constructor
  · simp only [nthPage, pageAt, hLength]
    omega
  · simp only [nthPage, pageAt, hLength, decide_eq_true_eq]
    omega

theorem start_le (hSize : 0 < size) (hIndex : index < pageCount rows.length size) : index * size ≤ rows.length := by
  cases index with
  | zero => simp
  | succ => exact ((lt_pageCount_iff hSize).mp hIndex).le

theorem nthPage_final_iff (hSize : 0 < size) (hIndex : index < pageCount rows.length size) :
    (nthPage fileSHA256 rows size index).finalPage ↔ index + 1 = pageCount rows.length size := by
  by_cases hInner : index + 1 < pageCount rows.length size
  · rw [(nthPage_inner ((lt_pageCount_iff hSize).mp hInner)).2]
    constructor
    · nofun
    · omega
  · have hLast := not_lt.mp (fun h => hInner ((lt_pageCount_iff hSize).mpr h))
    rw [(nthPage_last (start_le hSize hIndex) hLast).2]
    constructor
    · intro _
      omega
    · intro _
      rfl

theorem readFile_length {reads : List (Option (List GoString))} (h : readFile library effective reads = .ok rows) :
    (rows.length : Int) ≤ maxRows := by
  refine foldlM_preserves (P := fun passed => (passed.length : Int) ≤ maxRows) h (by decide) ?_
  intro read _ passed _ _ hNext
  cases hRow : readRow library effective passed read with
  | error =>
    rw [hRow] at hNext
    cases hNext
  | ok =>
    rw [hRow] at hNext
    cases hNext
    simp only [readRow, bind_eq_ok, require_eq_ok] at hRow
    obtain ⟨_, _, _, hLimit, _⟩ := hRow
    rw [length_append, length_singleton]
    exact hLimit

section

variable (h : Accepted library reader limits effective fileSHA256 rows size)

include h

theorem Accepted.digest : matchesHex 64 fileSHA256 := by
  obtain ⟨_, _, hPayload, _⟩ := h.file
  simp only [readPayload, bind_eq_ok] at hPayload
  obtain ⟨payload, _, _, _, _, _, _, _, _, _, hResult⟩ := hPayload
  cases hResult
  exact matchesHex_sha256Hex payload

theorem Accepted.length : (rows.length : Int) ≤ maxRows := by
  obtain ⟨_, _, _, _, hRows⟩ := h.file
  exact readFile_length hRows

theorem Accepted.resumable_iff {checkpoint : Checkpoint} :
    Resumable fileSHA256 rows size checkpoint ↔ checkpoint.fileSHA256 = fileSHA256 ∧
      checkpoint.schemaVersion = schemaVersion ∧
      validCheckpointRow checkpoint.rowNumber rows.length size := by
  constructor
  · intro hResumable
    exact ⟨hResumable.file, hResumable.schema, hResumable.row⟩
  · rintro ⟨hFile, hSchema, hRow⟩
    have hRange : 1 ≤ checkpoint.rowNumber ∧ checkpoint.rowNumber ≤ rows.length + 1 := by
      unfold validCheckpointRow at hRow
      split at hRow
      · cases hRow
      · omega
    exact ⟨hFile ▸ h.digest, hSchema, ⟨hRange.1, hRange.2.trans (by have := h.length; omega)⟩, hFile, hRow⟩

end

theorem nthPage_row (hSize : 0 < size) (hIndex : index < pageCount rows.length size) :
    (nthPage fileSHA256 rows size index).next.rowNumber =
      if index + 1 < pageCount rows.length size then (((index + 1) * size : Nat) : Int) + 1 else rows.length + 1 := by
  split
  · rename_i hInner
    push_cast
    exact (nthPage_inner ((lt_pageCount_iff hSize).mp hInner)).1
  · rename_i hLast
    have hEnd := not_lt.mp fun h => hLast ((lt_pageCount_iff hSize).mpr h)
    exact (nthPage_last (start_le hSize hIndex) hEnd).1

theorem validCheckpointRow_iff (hSize : 0 < size) {rowNumber : Int} :
    validCheckpointRow rowNumber rows.length size ↔
      ∃ index < pageCount rows.length size, (nthPage fileSHA256 rows size index).next.rowNumber = rowNumber := by
  have hCount : 1 ≤ pageCount rows.length size := le_max_left _ _
  have hLast : ∃ index < pageCount rows.length size,
      (nthPage fileSHA256 rows size index).next.rowNumber = rows.length + 1 := by
    refine ⟨pageCount rows.length size - 1, by omega, ?_⟩
    rw [nthPage_row hSize (by omega), if_neg (by omega)]
  constructor
  · intro hValid
    unfold validCheckpointRow at hValid
    split at hValid
    · cases hValid
    · rename_i hRange
      split at hValid
      · rename_i hEmpty
        rw [of_decide_eq_true hValid, show (1 : Int) = rows.length + 1 by omega]
        exact hLast
      · split at hValid
        · cases hValid
        · rename_i hFirst
          rcases of_decide_eq_true hValid with hEnd | hMultiple
          · rw [hEnd]
            exact hLast
          · by_cases hEnd : rowNumber = rows.length + 1
            · rw [hEnd]
              exact hLast
            · -- The row follows `quotient` whole pages, at least one.
              obtain ⟨quotient, hQuotient⟩ := Int.dvd_of_emod_eq_zero hMultiple
              have hPositive : 0 < quotient := by
                by_contra hNot
                have := Int.mul_nonpos_of_nonneg_of_nonpos (Int.natCast_nonneg size) (not_lt.mp hNot)
                omega
              obtain ⟨index, hIndex⟩ := Int.eq_ofNat_of_zero_le (show 0 ≤ quotient - 1 by omega)
              have hRow : rowNumber - 1 = (((index + 1) * size : Nat) : Int) := by
                rw [hQuotient, show quotient = (index : Int) + 1 by omega, Int.mul_comm]
                push_cast
                rfl
              have hInner : index + 1 < pageCount rows.length size := (lt_pageCount_iff hSize).mpr (by omega)
              refine ⟨index, by omega, ?_⟩
              rw [nthPage_row hSize (by omega), if_pos hInner]
              omega
  · rintro ⟨index, hIndex, rfl⟩
    rw [nthPage_row hSize hIndex]
    split
    · rename_i hInner
      have hLess := (lt_pageCount_iff hSize).mp hInner
      have hPositive : 0 < (index + 1) * size := Nat.mul_pos (Nat.succ_pos _) hSize
      have hMultiple : ((((index + 1) * size : Nat) : Int) + 1 - 1) % size = 0 := by
        rw [Int.add_sub_cancel, ← Int.natCast_mod, Nat.mul_mod_left]
        rfl
      unfold validCheckpointRow
      rw [if_neg (by omega), if_neg (by omega), if_neg (by omega)]
      exact decide_eq_true (.inr hMultiple)
    · unfold validCheckpointRow
      rw [if_neg (by omega)]
      split
      · exact decide_eq_true (by omega)
      · rw [if_neg (by omega)]
        exact decide_eq_true (.inl rfl)

theorem next_eq_iff {checkpoint : Checkpoint} :
    (nthPage fileSHA256 rows size index).next = checkpoint ↔ checkpoint.fileSHA256 = fileSHA256 ∧
      checkpoint.schemaVersion = schemaVersion ∧
      (nthPage fileSHA256 rows size index).next.rowNumber = checkpoint.rowNumber := by
  constructor
  · rintro rfl
    exact ⟨rfl, rfl, rfl⟩
  · rintro ⟨hFile, hSchema, hRow⟩
    obtain ⟨_, _, _⟩ := checkpoint
    simp only at hFile hSchema hRow
    rw [hFile, hSchema, ← hRow]
    rfl

theorem Accepted.next_page (h : Accepted library reader limits effective fileSHA256 rows size) (hSize : 0 < size)
    (hInner : index + 1 < pageCount rows.length size) :
    CsvImport.parse library (some reader) (some (nthPage fileSHA256 rows size index).next) limits =
      .ok (nthPage fileSHA256 rows size (index + 1)) := by
  refine h.resume.mpr ⟨h.resumable_iff.mpr ⟨rfl, rfl, ?_⟩, (index + 1) * size, ?_, rfl⟩
  · exact (validCheckpointRow_iff hSize).mpr ⟨index, by omega, rfl⟩
  · have hRow : (nthPage fileSHA256 rows size index).next.rowNumber = (index + 1) * size + 1 :=
      (nthPage_inner ((lt_pageCount_iff hSize).mp hInner)).1
    push_cast
    exact hRow

theorem Accepted.followPages (h : Accepted library reader limits effective fileSHA256 rows size) (hSize : 0 < size)
    {fuel remaining : Nat} (hRemaining : index + remaining + 1 = pageCount rows.length size) (hFuel : remaining ≤ fuel) :
    followPages library (some reader) limits fuel (nthPage fileSHA256 rows size index) =
      .ok ((List.range' index (remaining + 1)).map (nthPage fileSHA256 rows size)) := by
  induction remaining generalizing index fuel with
  | zero =>
    have hFinal : (nthPage fileSHA256 rows size index).finalPage :=
      (nthPage_final_iff hSize (by omega)).mpr hRemaining
    cases fuel with
    | zero => rfl
    | succ =>
      rw [CsvImport.followPages, if_pos hFinal]
      rfl
  | succ _ ih =>
    obtain ⟨fuel, rfl⟩ : ∃ less, fuel = less + 1 := ⟨fuel - 1, by omega⟩
    have hFinal : ¬ (nthPage fileSHA256 rows size index).finalPage := by
      rw [nthPage_final_iff hSize (by omega)]
      omega
    rw [CsvImport.followPages, if_neg hFinal, h.next_page hSize (by omega), ok_bind, ih (by omega) (by omega), ok_bind]
    rfl

theorem readPayload_bytes {csvPayload : GoString} (h : readPayload reader none effective = .ok (csvPayload, fileSHA256)) :
    csvPayload = trimBytes utf8BOM reader.bytes := by
  simp only [readPayload, bind_eq_ok, orFail_eq_ok, require_eq_ok] at h
  obtain ⟨payload, hRead, _, hLength, _, _, _, _, _, _, hResult⟩ := h
  have hPayload : payload = reader.bytes := by
    unfold Reader.readAll at hRead
    split at hRead
    · cases hRead
      rw [length_take] at hLength
      omega
    · split at hRead
      · cases hRead
      · exact (Option.some.inj hRead).symm
  cases hResult
  rw [hPayload]

theorem flatMap_nthPage {β : Type} (facts : Page → List β) (row : ParsedRecord → List β)
    (hFacts : ∀ index, facts (nthPage fileSHA256 rows size index) = (window rows (index * size) size).flatMap row)
    (hSize : 0 < size) :
    ((List.range' 0 (pageCount rows.length size)).map (nthPage fileSHA256 rows size)).flatMap facts = rows.flatMap row := by
  have hAll : rows.take (pageCount rows.length size * size) = rows := take_of_length_le (rows_le_pageCount_mul hSize)
  calc ((List.range' 0 (pageCount rows.length size)).map (nthPage fileSHA256 rows size)).flatMap facts
      = (List.range (pageCount rows.length size)).flatMap (fun index => (window rows (index * size) size).flatMap row) := by
        rw [flatMap_map, ← range_eq_range']
        simp only [hFacts]
    _ = ((List.range (pageCount rows.length size)).flatMap (fun index => window rows (index * size) size)).flatMap row := by
        rw [flatMap_assoc]
    _ = rows.flatMap row := by rw [flatMap_window, hAll]

end Pages

/-- An import that starts runs to its last page without an error; its pages hold every row of the file once and in
order, and the checkpoints it yields are all that a resumption accepts. -/
theorem csv_paging_lossless (library : Library) (reader : Reader) (limits : Limits) (first : Page)
    (hFirst : parse library (some reader) none limits = .ok first) :
    ∃ effective reads rows, normalizeLimits limits = .ok effective ∧
      library.records (trimBytes utf8BOM reader.bytes) = some header :: reads ∧
      readFile library effective reads = .ok rows ∧
      ∃ pages : List Page, pages.length = pageCount rows.length effective.maxRowsPerPage.toNat ∧
        (∀ fuel, pages.length ≤ fuel → importPages library (some reader) limits fuel = .ok pages) ∧
        (∀ index page, pages[index]? = some page → (page.finalPage = true ↔ index + 1 = pages.length)) ∧
        pages.flatMap Page.items = rows.map ParsedRecord.item ∧
        pages.flatMap Page.relations = rows.flatMap (fun parsed => parsed.relation.toList) ∧
        ∀ checkpoint, (∃ page, parse library (some reader) (some checkpoint) limits = .ok page) ↔
          ∃ page ∈ pages, page.next = checkpoint := by
  obtain ⟨effective, fileSHA256, rows, size, _, hAccepted, _⟩ := parse_ok.mp hFirst
  have hPositive := normalizeLimits_size hAccepted.limits
  have hSize : 0 < size := by
    rw [hAccepted.size] at hPositive
    omega
  obtain ⟨_, reads, hPayload, hRecords, hRows⟩ := hAccepted.file
  rw [readPayload_bytes hPayload] at hRecords
  have hCount : 1 ≤ pageCount rows.length size := le_max_left _ _
  refine ⟨effective, reads, rows, hAccepted.limits, hRecords, hRows,
    (List.range' 0 (pageCount rows.length size)).map (nthPage fileSHA256 rows size), ?_, ?_, ?_, ?_, ?_, ?_⟩
  · rw [hAccepted.size]
    simp
  · intro fuel hFuel
    rw [List.length_map, List.length_range'] at hFuel
    have hFollow := hAccepted.followPages hSize (show 0 + (pageCount rows.length size - 1) + 1 = _ by omega)
      (show pageCount rows.length size - 1 ≤ fuel by omega)
    have hZero : nthPage fileSHA256 rows size 0 = pageAt fileSHA256 rows size 0 := by rw [nthPage, Nat.zero_mul]
    rw [importPages, hAccepted.parse, ok_bind, ← hZero, hFollow, Nat.sub_add_cancel hCount]
  · intro index page hPage
    rw [List.length_map, List.length_range']
    obtain ⟨_, hPosition, rfl⟩ := Option.map_eq_some_iff.mp (List.getElem?_map .. ▸ hPage)
    obtain ⟨hIndex, rfl⟩ := List.getElem?_eq_some_iff.mp hPosition
    rw [List.length_range'] at hIndex
    rw [List.getElem_range', Nat.zero_add, Nat.one_mul]
    exact nthPage_final_iff hSize hIndex
  · exact (flatMap_nthPage Page.items _ (fun _ => List.map_eq_flatMap) hSize).trans List.map_eq_flatMap.symm
  · exact flatMap_nthPage Page.relations _ (fun _ => rfl) hSize
  · intro checkpoint
    constructor
    · rintro ⟨page, hParse⟩
      obtain ⟨hFile, hSchema, hRow⟩ := hAccepted.resumable_iff.mp (hAccepted.resume.mp hParse).1
      obtain ⟨index, hIndex, hNext⟩ := (validCheckpointRow_iff hSize).mp hRow
      refine ⟨nthPage fileSHA256 rows size index, ?_, next_eq_iff.mpr ⟨hFile, hSchema, hNext⟩⟩
      exact List.mem_map_of_mem (List.mem_range'_1.mpr ⟨Nat.zero_le _, by omega⟩)
    · rintro ⟨page, hPage, rfl⟩
      obtain ⟨index, hIndex, rfl⟩ := List.mem_map.mp hPage
      have hLess := (List.mem_range'_1.mp hIndex).2
      have hRow : validCheckpointRow (nthPage fileSHA256 rows size index).next.rowNumber rows.length size = true :=
        (validCheckpointRow_iff hSize).mpr ⟨index, by omega, rfl⟩
      refine ⟨_, hAccepted.resume.mpr ⟨hAccepted.resumable_iff.mpr ⟨rfl, rfl, hRow⟩,
        index * size + (window rows (index * size) size).length, ?_, rfl⟩⟩
      simp only [nthPage, pageAt]
      push_cast
      omega

def sampleLimits : Limits where
  maxRowsPerPage := 2
  maxBytes := 0
  authorityEnvironmentIDs := [ascii "0a0a0a0a-0000-4000-8000-000000000001"]

def samplePayload : GoString :=
  joinByte 10 ((joinByte 44 header) :: [
    "0a0a0a0a-0000-4000-8000-000000000001,CSV_RFC4180_V1,host-1,LINUX_VM,Host 1,1,false,,RUNS_ON,0a0a0a0a-0000-4000-8000-000000000001,host-2",
    "0a0a0a0a-0000-4000-8000-000000000001,CSV_RFC4180_V1,host-2,BARE_METAL_HOST,Host 2,4,false,,,,",
    "0a0a0a0a-0000-4000-8000-000000000001,CSV_RFC4180_V1,host-3,,,2,true,PROVIDER_DELETED,,,"].map ascii)

/-- A payload without quotes and blank lines is split at its line feeds and commas. -/
def sampleLibrary : Library where
  records := fun payload => (splitByte 10 payload).map (fun line => some (splitByte 44 line))
  unsafeField := fun _ => false
  safeText := fun _ => true

theorem csv_paging_lossless_three_rows :
    ∃ first pages fuel, parse sampleLibrary (some { bytes := samplePayload, fails := false }) none sampleLimits =
      .ok first ∧
      importPages sampleLibrary (some { bytes := samplePayload, fails := false }) sampleLimits fuel = .ok pages := by
  have hParse : (parse sampleLibrary (some { bytes := samplePayload, fails := false }) none sampleLimits).toOption.map
      (fun page => (page.items.length, page.relations.length, page.next.rowNumber, page.finalPage)) =
        some (2, 1, 3, false) := by decide +kernel
  obtain ⟨first, hOption, _⟩ := Option.map_eq_some_iff.mp hParse
  have hFirst : parse sampleLibrary (some { bytes := samplePayload, fails := false }) none sampleLimits = .ok first := by
    revert hOption
    cases parse sampleLibrary (some { bytes := samplePayload, fails := false }) none sampleLimits <;>
      simp [Except.toOption]
  obtain ⟨_, _, _, _, _, _, pages, _, hImport, _⟩ :=
    csv_paging_lossless sampleLibrary { bytes := samplePayload, fails := false } sampleLimits first hFirst
  exact ⟨first, pages, pages.length, hFirst, hImport _ le_rfl⟩

end AiopsSystem.CsvImport
