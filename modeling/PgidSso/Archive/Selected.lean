import PgidSso.Archive.RecordSet
import PgidSso.Archive.Selection
import PgidSso.Library.Utf8

open checked

namespace pgid.audit

section bytes

theorem length_encode_append_of_ascii {left right : Text} (hleft : left.Ascii) :
    (left ++ right).encode.length = left.encode.length + right.encode.length := by
  induction left with
  | nil => simp [Text.encode]
  | cons code left ih =>
    obtain ⟨hcode, hrest⟩ := Text.ascii_cons.mp hleft
    rw [List.cons_append, Text.encode_cons_of_ascii hcode, Text.encode_cons_of_ascii hcode, List.length_append,
      List.length_append, ih hrest, Nat.add_assoc]

theorem sum_encode_le_commaSeparated (texts : List Text) :
    (texts.map fun text => text.encode.length).sum ≤ (json.commaSeparated texts).encode.length := by
  induction texts with
  | nil => exact Nat.zero_le _
  | cons text texts ih =>
    cases texts with
    | nil => simp [json.commaSeparated]
    | cons next texts =>
      have hcomma : Text.unit ',' < 0x80 := by decide
      have hjoined : json.commaSeparated (text :: next :: texts) =
          text ++ Text.unit ',' :: json.commaSeparated (next :: texts) := by
        rw [json.commaSeparated, List.append_assoc]
        · rfl
        · simp
      rw [hjoined, Text.encode_append_of_ascii hcomma, Text.encode_cons_of_ascii hcomma, List.map_cons,
        List.sum_cons, List.length_append, List.length_append]
      omega

/-- The records take no more bytes than the plaintext that holds them. -/
theorem sum_recordBytes_le_plaintextBytes (records : List AuditArchiveRecordV1) :
    (records.map recordBytes).sum ≤ plaintextBytes records := by
  have hbracket : Text.unit ']' < 0x80 := by decide
  obtain ⟨before, after, hbefore, htext⟩ : ∃ before after : Text, before.Ascii ∧
      recordSetText records =
        before ++ (json.commaSeparated (records.map AuditArchiveRecordV1.text) ++ Text.unit ']' :: after) := by
    refine ⟨Text.of "\x7b" ++ (json.string (Text.of "contract") ++ Text.of ":" ++
        json.string AUDIT_ARCHIVE_RECORDS_CONTRACT ++ Text.of "," ++
        (json.string (Text.of "records") ++ Text.of ":" ++ Text.of "[")),
      Text.of "," ++ (json.string (Text.of "schemaVersion") ++ Text.of ":" ++ json.integer 1) ++ Text.of "\x7d",
      by set_option maxRecDepth 20000 in decide, ?_⟩
    simp only [recordSetText, json.object, json.array, List.map_cons, List.map_nil, json.commaSeparated,
      List.append_assoc]
    rfl
  have hsum := sum_encode_le_commaSeparated (records.map AuditArchiveRecordV1.text)
  rw [List.map_map] at hsum
  rw [plaintextBytes, htext, length_encode_append_of_ascii hbefore, Text.encode_append_of_ascii hbracket,
    List.length_append]
  exact Nat.le_trans hsum (by omega)

end bytes

section accepted

/-- A row that both contracts of a record accept by itself. -/
def SourceRowAccepted (row : AuditArchiveRecordV1) : Prop :=
  parseSourceRow row = .ok row ∧ ∃ canonical, canonicalRecordSet [row] = .ok canonical

theorem mapError_eq_ok_iff {ε δ α : Type} {result : Except ε α} {f : ε → δ} {value : α} :
    result.mapError f = .ok value ↔ result = .ok value := by
  cases result <;> simp [Except.mapError]

theorem repositoryCheck_returns {α : Type} {check : α → Except AuditArchiveCryptoErrorCode α}
    (hcheck : Returns check) : Returns fun value => repositoryCheck (check value) := by
  intro value result hresult
  exact hcheck value result (mapError_eq_ok_iff.mp hresult)

theorem parseSourceRow_returns : Returns parseSourceRow := by
  intro row record hparse
  have hidentifier := repositoryCheck_returns safeIdentifier_returns
  have hreference : Returns canonicalReference := by
    intro value result hresult
    rw [canonicalReference, throwIf_bind_eq_ok_iff, pure_eq_ok_iff] at hresult
    exact hresult.2.symm
  have hhash : Returns repositorySafeHash := by
    intro value result hresult
    rw [repositorySafeHash, throwIf_bind_eq_ok_iff, pure_eq_ok_iff] at hresult
    exact hresult.2.symm
  have hinteger : ∀ minimum maximum, Returns fun value => boundedInteger value minimum maximum := by
    intro minimum maximum value result hresult
    simp only [boundedInteger, throwIf_bind_eq_ok_iff, pure_eq_ok_iff] at hresult
    exact hresult.2.symm
  simp only [parseSourceRow, throwIf_eq_ok_iff, bind_eq_ok_iff, pure_eq_ok_iff, exists_const] at hparse
  obtain ⟨-, actorRef, hactorRef, hversion, actorUserId, hactorUserId, clientId, hclientId, eventId, heventId,
    ipHash, hipHash, occurredAt, hoccurredAt, sequence, hsequence, sessionId, hsessionId, subjectId, hsubjectId,
    userAgentHash, huserAgentHash, rfl⟩ := hparse
  obtain rfl := nullable_returns hreference _ _ hactorRef
  obtain rfl := nullable_returns hidentifier _ _ hactorUserId
  obtain rfl := nullable_returns hidentifier _ _ hclientId
  obtain rfl := hidentifier _ _ heventId
  obtain rfl := nullable_returns hhash _ _ hipHash
  obtain rfl := repositoryCheck_returns canonicalTimestamp_returns _ _ hoccurredAt
  obtain rfl := hinteger _ _ _ _ hsequence
  obtain rfl := nullable_returns hidentifier _ _ hsessionId
  obtain rfl := nullable_returns hidentifier _ _ hsubjectId
  obtain rfl := nullable_returns hhash _ _ huserAgentHash
  have hpaired : row.actorRef.map (fun _ => (1 : Int)) = row.actorRefHashVersion := by
    cases href : row.actorRef with
    | none =>
      rw [href] at hversion
      simpa [eq_comm] using hversion
    | some reference =>
      rw [href] at hversion
      simpa [eq_comm] using hversion
  rw [hpaired]

theorem validateRecordSet_eq_ok_iff {records : List AuditArchiveRecordV1}
    {code : AuditArchiveRepositoryErrorCode} {canonical : CanonicalRecordSet} :
    validateRecordSet records code = .ok canonical ↔ canonicalRecordSet records = .ok canonical := by
  rw [validateRecordSet, throwIf_bind_eq_ok_iff, mapError_eq_ok_iff]
  constructor
  · exact And.right
  · intro hcanonical
    obtain ⟨⟨hnonempty, hcount, -⟩, -⟩ := canonicalRecordSet_eq_ok_iff.mp hcanonical
    exact ⟨not_or.mpr ⟨hnonempty, Nat.not_lt.mpr hcount⟩, hcanonical⟩

variable {records available : List AuditArchiveRecordV1} {previousSequence : Int}

/-- Rising rows are available when each of them is a canonical set by itself. -/
theorem checkAvailable_eq_ok_iff (habove : ∀ record ∈ available, previousSequence < record.sequence)
    (hrising : available.Pairwise fun left right => left.sequence < right.sequence) :
    checkAvailable previousSequence available = .ok () ↔
      ∀ record ∈ available, ∃ canonical, canonicalRecordSet [record] = .ok canonical := by
  induction available generalizing previousSequence with
  | nil => exact iff_of_true rfl fun record hmem => absurd hmem List.not_mem_nil
  | cons record available ih =>
    rw [List.forall_mem_cons] at habove ⊢
    rw [List.pairwise_cons] at hrising
    rw [checkAvailable, throwIf_bind_eq_ok_iff, bind_eq_ok_iff, ih hrising.1 hrising.2]
    simp only [validateRecordSet_eq_ok_iff]
    constructor
    · rintro ⟨-, canonical, hcanonical, hrest⟩
      exact ⟨⟨canonical, hcanonical⟩, hrest⟩
    · rintro ⟨⟨canonical, hcanonical⟩, hrest⟩
      exact ⟨Int.not_le.mpr habove.1, canonical, hcanonical, hrest⟩

theorem checkAvailable_single (havailable : checkAvailable previousSequence available = .ok ()) :
    ∀ record ∈ available, ∃ canonical, canonicalRecordSet [record] = .ok canonical := by
  induction available generalizing previousSequence with
  | nil => exact fun record hmem => absurd hmem List.not_mem_nil
  | cons record available ih =>
    rw [checkAvailable, throwIf_bind_eq_ok_iff, bind_eq_ok_iff] at havailable
    obtain ⟨-, canonical, hcanonical, hrest⟩ := havailable
    rw [List.forall_mem_cons]
    exact ⟨⟨canonical, validateRecordSet_eq_ok_iff.mp hcanonical⟩, ih hrest⟩

/-- Records that are canonical by themselves, rising and distinct, are canonical together
within the two limits. -/
theorem canonicalRecordSet_ok_iff_bounded
    (hsingle : ∀ record ∈ records, ∃ canonical, canonicalRecordSet [record] = .ok canonical)
    (hrising : records.Pairwise fun left right => left.sequence < right.sequence)
    (hdistinct : records.Pairwise fun left right => left.eventId ≠ right.eventId) :
    (∃ canonical, canonicalRecordSet records = .ok canonical) ↔
      records ≠ [] ∧ records.length ≤ AUDIT_ARCHIVE_MAX_RECORDS ∧
        plaintextBytes records ≤ AUDIT_ARCHIVE_MAX_PLAINTEXT_BYTES := by
  have hvalid : ∀ record ∈ records, validatedRecord record = .ok record ∧ 0 < record.sequence ∧
      recordBytes record ≤ AUDIT_ARCHIVE_MAX_RECORD_BYTES := by
    intro record hmem
    obtain ⟨canonical, hcanonical⟩ := hsingle record hmem
    obtain ⟨⟨-, -, hrecord, hchecked, -⟩, -⟩ := canonicalRecordSet_eq_ok_iff.mp hcanonical
    exact ⟨hrecord record List.mem_cons_self, hchecked.above record List.mem_cons_self,
      hchecked.small record List.mem_cons_self⟩
  constructor
  · rintro ⟨canonical, hcanonical⟩
    obtain ⟨⟨hnonempty, hcount, -, -, hbytes⟩, -⟩ := canonicalRecordSet_eq_ok_iff.mp hcanonical
    exact ⟨hnonempty, hcount, hbytes⟩
  · rintro ⟨hnonempty, hcount, hbytes⟩
    have hsum := sum_recordBytes_le_plaintextBytes records
    exact ⟨_, canonicalRecordSet_eq_ok_iff.mpr ⟨⟨hnonempty, hcount, fun record hmem => (hvalid record hmem).1,
      ⟨fun record hmem => (hvalid record hmem).2.1, hrising, fun record _ => List.not_mem_nil, hdistinct,
        fun record hmem => (hvalid record hmem).2.2, by omega⟩, hbytes⟩, rfl⟩⟩

/-- The records are extended by a prefix of the available ones, up to the first that does not
fit. -/
theorem takeRecords_greedy
    (hfirst : records = [] → ∀ record ∈ available.head?, ∃ canonical, canonicalRecordSet [record] = .ok canonical) :
    ∃ taken rest, takeRecords records available = .ok (records ++ taken) ∧ available = taken ++ rest ∧
      ∀ next ∈ rest.head?, ¬ ∃ canonical, canonicalRecordSet (records ++ taken ++ [next]) = .ok canonical := by
  induction available generalizing records with
  | nil =>
    refine ⟨[], [], ?_, rfl, fun next hnext => by cases hnext⟩
    rw [takeRecords, List.append_nil]
    rfl
  | cons record available ih =>
    rw [takeRecords]
    cases hset : validateRecordSet (records ++ [record]) .sourceInvalid with
    | ok canonical =>
      have hcanonical := validateRecordSet_eq_ok_iff.mp hset
      obtain ⟨⟨-, -, -, -, hbytes⟩, rfl⟩ := canonicalRecordSet_eq_ok_iff.mp hcanonical
      obtain ⟨taken, rest, htaken, havailable, hstop⟩ :=
        @ih (records ++ [record]) fun hnone => absurd hnone (by simp)
      refine ⟨record :: taken, rest, ?_, by rw [havailable, List.cons_append], ?_⟩
      · dsimp only
        rw [← plaintextBytes, if_neg (Nat.not_lt.mpr hbytes), htaken, List.append_assoc, List.singleton_append]
      · rw [List.append_assoc, List.singleton_append] at hstop
        exact hstop
    | error error =>
      have hnot : ¬ ∃ canonical, canonicalRecordSet (records ++ [record]) = .ok canonical := by
        rintro ⟨canonical, hcanonical⟩
        rw [validateRecordSet_eq_ok_iff.mpr hcanonical] at hset
        cases hset
      have hnonempty : records ≠ [] := by
        rintro rfl
        exact hnot (hfirst rfl record rfl)
      refine ⟨[], record :: available, ?_, rfl, ?_⟩
      · dsimp only
        rw [if_neg hnonempty, List.append_nil]
        rfl
      · rintro next ⟨rfl⟩
        rw [List.append_nil]
        exact hnot

end accepted

/-- The rows of the source after a checkpoint, in the order of their sequence. No two are of
one event. -/
structure AuditArchiveSource (lastSequence : Int) where
  rows : List AuditArchiveRecordV1
  after : ∀ row ∈ rows, lastSequence < row.sequence
  rising : rows.Pairwise fun left right => left.sequence < right.sequence
  distinct : rows.Pairwise fun left right => left.eventId ≠ right.eventId

/-- The rows that the query returns: `LIMIT 101`. -/
def AuditArchiveSource.read {lastSequence : Int} (source : AuditArchiveSource lastSequence) :
    List AuditArchiveRecordV1 :=
  source.rows.take 101

section selection

variable {checkpointRow : AuditArchiveCheckpoint} (source : AuditArchiveSource checkpointRow.lastSequence)

/-- What a selection is when the rows of the read are accepted by themselves. -/
theorem selectAuditArchiveSource_of_accepted {checkpoint : AuditArchiveCheckpoint}
    (hcheckpoint : parseCheckpoint checkpointRow = .ok checkpoint)
    (haccepted : ∀ row ∈ source.read, SourceRowAccepted row) :
    ∃ taken rest, source.read.take AUDIT_ARCHIVE_MAX_RECORDS = taken ++ rest ∧
      selectAuditArchiveSource checkpointRow source.read =
        .ok { checkpoint, hasMore := taken.length < source.read.length, records := taken } ∧
      (source.read ≠ [] → taken ≠ []) ∧
      ∀ next ∈ rest.head?, ¬ ∃ canonical, canonicalRecordSet (taken ++ [next]) = .ok canonical := by
  have hlast : checkpoint.lastSequence = checkpointRow.lastSequence := by
    simp only [parseCheckpoint, bind_eq_ok_iff, throwIf_eq_ok_iff, pure_eq_ok_iff, exists_const, boundedInteger]
      at hcheckpoint
    obtain ⟨revision, -, lastSequence, hsequence, lastBatchKey, -, lastArchivedAt, -, -, rfl⟩ := hcheckpoint
    exact hsequence.2.symm
  have hsingle : ∀ row ∈ source.read, ∃ canonical, canonicalRecordSet [row] = .ok canonical :=
    fun row hrow => (haccepted row hrow).2
  have hrows : source.read.mapM parseSourceRow = .ok source.read :=
    (mapM_eq_ok_iff_of_returns parseSourceRow_returns).mpr ⟨rfl, fun row hrow => (haccepted row hrow).1⟩
  have hsublist : source.read.Sublist source.rows := List.take_sublist _ _
  have havailable : checkAvailable checkpoint.lastSequence source.read = .ok () := by
    rw [hlast]
    exact (checkAvailable_eq_ok_iff (fun row hrow => source.after row (hsublist.subset hrow))
      (source.rising.sublist hsublist)).mpr hsingle
  obtain ⟨taken, rest, htaken, hsplit, hstop⟩ :=
    @takeRecords_greedy [] (source.read.take AUDIT_ARCHIVE_MAX_RECORDS) fun _ row hrow =>
      hsingle row (List.mem_of_mem_take (List.mem_of_mem_head? hrow))
  rw [List.nil_append] at htaken
  have hnonempty : source.read ≠ [] → taken ≠ [] := by
    intro hrows hnone
    subst hnone
    obtain ⟨row, others, hread⟩ := List.exists_cons_of_ne_nil hrows
    have hrow : row ∈ rest.head? := by
      rw [← List.nil_append rest, ← hsplit, hread]
      rfl
    exact hstop row hrow (hsingle row (by rw [hread]; exact List.mem_cons_self))
  refine ⟨taken, rest, hsplit, ?_, hnonempty, fun next hnext => hstop next hnext⟩
  have hstalled : ¬ (0 < source.read.length ∧ taken.length = 0) := by
    rintro ⟨hlength, hnone⟩
    exact hnonempty (List.ne_nil_of_length_pos hlength) (List.eq_nil_of_length_eq_zero hnone)
  rw [selectAuditArchiveSource, hcheckpoint, hrows]
  simp only [Except.mapError, ok_bind, havailable, htaken]
  rw [throwIf_bind_of_not hstalled]
  rfl

/-- A selection is made exactly when the checkpoint is valid and the rows of the read are
accepted by themselves. -/
theorem selectAuditArchiveSource_ok_iff :
    (∃ selection, selectAuditArchiveSource checkpointRow source.read = .ok selection) ↔
      (∃ checkpoint, parseCheckpoint checkpointRow = .ok checkpoint) ∧
        ∀ row ∈ source.read, SourceRowAccepted row := by
  constructor
  · rintro ⟨selection, hselect⟩
    simp only [selectAuditArchiveSource, bind_eq_ok_iff, mapError_eq_ok_iff,
      mapM_eq_ok_iff_of_returns parseSourceRow_returns] at hselect
    obtain ⟨checkpoint, hcheckpoint, _, ⟨rfl, hparsed⟩, _, havailable, -⟩ := hselect
    refine ⟨⟨checkpoint, hcheckpoint⟩, fun row hrow => ⟨hparsed row hrow, ?_⟩⟩
    exact checkAvailable_single havailable row hrow
  · rintro ⟨⟨checkpoint, hcheckpoint⟩, haccepted⟩
    obtain ⟨taken, rest, -, hselect, -⟩ := selectAuditArchiveSource_of_accepted source hcheckpoint haccepted
    exact ⟨_, hselect⟩

/-- The selection takes as many of the rows after the checkpoint as fit, from the first on. It
is made exactly when the checkpoint is valid and each of the first 101 rows is accepted by
itself; its records are then a prefix of the rows that is a canonical set, none only if there
are no rows, and the next row would exceed one of the two limits. -/
theorem selectAuditArchiveSource_greedy (checkpointRow : AuditArchiveCheckpoint)
    (source : AuditArchiveSource checkpointRow.lastSequence) :
    ((∃ selection, selectAuditArchiveSource checkpointRow source.read = .ok selection) ↔
      (∃ checkpoint, parseCheckpoint checkpointRow = .ok checkpoint) ∧
        ∀ row ∈ source.read, SourceRowAccepted row) ∧
    ∀ selection, selectAuditArchiveSource checkpointRow source.read = .ok selection →
      ∃ rest, source.rows = selection.records ++ rest ∧
        (source.rows ≠ [] → selection.records ≠ [] ∧
          ∃ canonical, canonicalRecordSet selection.records = .ok canonical) ∧
        selection.records.length ≤ AUDIT_ARCHIVE_MAX_RECORDS ∧
        (selection.hasMore = true ↔ rest ≠ []) ∧
        ∀ next ∈ rest.head?, AUDIT_ARCHIVE_MAX_RECORDS < (selection.records ++ [next]).length ∨
          AUDIT_ARCHIVE_MAX_PLAINTEXT_BYTES < plaintextBytes (selection.records ++ [next]) := by
  refine ⟨selectAuditArchiveSource_ok_iff source, ?_⟩
  intro selection hselect
  obtain ⟨⟨checkpoint, hcheckpoint⟩, haccepted⟩ := (selectAuditArchiveSource_ok_iff source).mp ⟨selection, hselect⟩
  obtain ⟨taken, left, hsplit, hselected, hnonempty, hstop⟩ :=
    selectAuditArchiveSource_of_accepted source hcheckpoint haccepted
  cases hselect.symm.trans hselected
  have hread : source.read = source.rows.take 101 := rfl
  have htake : source.read.take AUDIT_ARCHIVE_MAX_RECORDS = source.rows.take 100 := by
    rw [hread, List.take_take]
    rfl
  have hcount : taken.length + left.length = min 100 source.rows.length := by
    rw [← List.length_append, ← hsplit, htake, List.length_take]
  have hreadCount : source.read.length = min 101 source.rows.length := by
    rw [hread, List.length_take]
  have hrows : source.rows = taken ++ (left ++ source.rows.drop 100) := by
    rw [← List.append_assoc, ← hsplit, htake, List.take_append_drop]
  have hdrop : (source.rows.drop 100).length = source.rows.length - 100 := List.length_drop
  have hlimit : AUDIT_ARCHIVE_MAX_RECORDS = 100 := rfl
  refine ⟨left ++ source.rows.drop 100, hrows, ?_, ?_, ?_, ?_⟩
  · intro hsome
    have htaken := hnonempty (by
      intro hnone
      rw [hread, List.take_eq_nil_iff] at hnone
      rcases hnone with hzero | hnone
      · cases hzero
      · exact hsome hnone)
    exact ⟨htaken, selectAuditArchiveSource_canonical hselected htaken⟩
  · dsimp only
    omega
  · rw [← List.length_pos_iff, List.length_append, hdrop]
    simp only [decide_eq_true_eq]
    omega
  · intro next hnext
    dsimp only
    rw [List.length_append, List.length_singleton]
    cases left with
    | nil =>
      -- All rows of the read were taken, so a next row lies beyond a hundred.
      have hbeyond : 0 < (source.rows.drop 100).length :=
        List.length_pos_of_mem (List.mem_of_mem_head? hnext)
      left
      simp only [List.length_nil] at hcount
      omega
    | cons first more =>
      cases hnext
      have hbegins : (taken ++ [next]).Sublist source.read := by
        have htaken : (taken ++ [next]).Sublist (source.read.take AUDIT_ARCHIVE_MAX_RECORDS) := by
          have htogether : taken ++ next :: more = taken ++ [next] ++ more := List.append_cons taken next more
          rw [hsplit, htogether]
          exact List.sublist_append_left _ _
        exact htaken.trans (List.take_sublist _ _)
      have hsublist := hbegins.trans (List.take_sublist 101 source.rows)
      apply Decidable.byContradiction
      intro hlimits
      obtain ⟨hfew, hsmall⟩ := not_or.mp hlimits
      refine hstop next rfl ((canonicalRecordSet_ok_iff_bounded ?_ (source.rising.sublist hsublist)
        (source.distinct.sublist hsublist)).mpr ⟨by simp, ?_, Nat.not_lt.mp hsmall⟩)
      · exact fun row hrow => (haccepted row (hbegins.subset hrow)).2
      · rw [List.length_append, List.length_singleton]
        exact Nat.not_lt.mp hfew

end selection

/-- A checkpoint before the first batch. -/
def firstCheckpoint : AuditArchiveCheckpoint where
  lastArchivedAt := none
  lastBatchKey := none
  lastSequence := 0
  revision := 0

/-- One row, whose metadata is JSON but no object. -/
def arrayMetadataSource : AuditArchiveSource firstCheckpoint.lastSequence where
  rows := [
    { actorRef := none
      actorRefHashVersion := none
      actorUserId := none
      clientId := none
      eventId := Text.of "event-1"
      eventType := Text.of "passkey.step_up_succeeded"
      ipHash := none
      metadataJson := some (Text.of "[]")
      occurredAt := Text.of "2026-07-17T00:00:00.000Z"
      outcome := .success
      sequence := 1
      sessionId := none
      subjectId := none
      userAgentHash := none }]
  after := by decide
  rising := by decide
  distinct := by decide

/-- A row that the record contract refuses makes the selection fail, although there is a row. -/
theorem selectAuditArchiveSource_arrayMetadata :
    arrayMetadataSource.rows ≠ [] ∧ (∃ checkpoint, parseCheckpoint firstCheckpoint = .ok checkpoint) ∧
      ¬ ∃ selection, selectAuditArchiveSource firstCheckpoint arrayMetadataSource.read = .ok selection := by
  refine ⟨by decide, ⟨_, rfl⟩, ?_⟩
  rintro ⟨selection, hselect⟩
  obtain ⟨-, haccepted⟩ := (selectAuditArchiveSource_ok_iff arrayMetadataSource).mp ⟨selection, hselect⟩
  obtain ⟨-, canonical, hcanonical⟩ := haccepted _ List.mem_cons_self
  obtain ⟨⟨-, -, hvalid, -⟩, -⟩ := canonicalRecordSet_eq_ok_iff.mp hcanonical
  have hrecord := congrArg Except.isOk (hvalid _ List.mem_cons_self)
  exact absurd hrecord (by set_option maxRecDepth 20000 in decide)

end pgid.audit
