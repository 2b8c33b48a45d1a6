import PgidSso.Archive.Record

open checked

namespace pgid.audit

section fields

theorem safeInteger_eq_ok_iff {value minimum result : Int} :
    safeInteger value minimum = .ok result ↔
      result = value ∧ -MAX_SAFE_INTEGER ≤ value ∧ value ≤ MAX_SAFE_INTEGER ∧ minimum ≤ value := by
  simp only [safeInteger, throwIf_bind_eq_ok_iff, pure_eq_ok_iff, not_or, Int.not_lt]
  constructor
  · rintro ⟨hbounds, rfl⟩
    exact ⟨rfl, hbounds⟩
  · rintro ⟨rfl, hbounds⟩
    exact ⟨hbounds, rfl⟩

theorem canonicalTimestamp_returns : Returns canonicalTimestamp := by
  intro value result hresult
  simp only [canonicalTimestamp, throwIf_bind_eq_ok_iff, pure_eq_ok_iff] at hresult
  exact hresult.2.symm

theorem safeIdentifier_returns : Returns safeIdentifier := by
  intro value result hresult
  simp only [safeIdentifier, throwIf_bind_eq_ok_iff, pure_eq_ok_iff] at hresult
  exact hresult.2.symm

theorem safeHash_returns : Returns safeHash := by
  intro value result hresult
  simp only [safeHash, throwIf_bind_eq_ok_iff, pure_eq_ok_iff] at hresult
  exact hresult.2.symm

theorem safeActorRef_returns : Returns safeActorRef := by
  intro value result hresult
  simp only [safeActorRef, throwIf_bind_eq_ok_iff, pure_eq_ok_iff] at hresult
  exact hresult.2.symm

theorem safeActorRefHashVersion_returns : Returns safeActorRefHashVersion := by
  intro value result hresult
  simp only [safeActorRefHashVersion, throwIf_bind_eq_ok_iff, pure_eq_ok_iff] at hresult
  exact hresult.2.symm

theorem validateMetadataJson_returns : Returns validateMetadataJson := by
  intro value result hresult
  rw [validateMetadataJson, throwIf_bind_eq_ok_iff] at hresult
  obtain ⟨-, hresult⟩ := hresult
  split at hresult
  · simp only [throwIf_eq_ok_iff, bind_eq_ok_iff, pure_eq_ok_iff, exists_const] at hresult
    obtain ⟨-, -, -, rfl⟩ := hresult
    rfl
  · exact absurd hresult throw_ne_ok

end fields

/-- A validated record is the record that was given. -/
theorem validatedRecord_returns : Returns validatedRecord := by
  intro record result hresult
  simp only [validatedRecord, throwIf_eq_ok_iff, bind_eq_ok_iff, pure_eq_ok_iff, exists_const] at hresult
  obtain ⟨-, actorRef, hactorRef, version, hversion, -, actorUserId, hactorUserId, clientId, hclientId,
    eventId, heventId, ipHash, hipHash, metadataJson, hmetadataJson, occurredAt, hoccurredAt, sequence,
    hsequence, sessionId, hsessionId, subjectId, hsubjectId, userAgentHash, huserAgentHash, rfl⟩ := hresult
  have hidentifier := nullable_returns safeIdentifier_returns
  have hhash := nullable_returns safeHash_returns
  obtain rfl := nullable_returns safeActorRef_returns _ _ hactorRef
  obtain rfl := nullable_returns safeActorRefHashVersion_returns _ _ hversion
  obtain rfl := hidentifier _ _ hactorUserId
  obtain rfl := hidentifier _ _ hclientId
  obtain rfl := safeIdentifier_returns _ _ heventId
  obtain rfl := hhash _ _ hipHash
  obtain rfl := nullable_returns validateMetadataJson_returns _ _ hmetadataJson
  obtain rfl := canonicalTimestamp_returns _ _ hoccurredAt
  obtain rfl := (safeInteger_eq_ok_iff.mp hsequence).1
  obtain rfl := hidentifier _ _ hsessionId
  obtain rfl := hidentifier _ _ hsubjectId
  obtain rfl := hhash _ _ huserAgentHash
  rfl

/-- A record is valid when each of its fields is. -/
theorem validatedRecord_eq_ok {record : AuditArchiveRecordV1}
    (heventType : ¬ (128 < record.eventType.length ∨ isEventType record.eventType = false ∨
      containsCredentialMaterial record.eventType = true))
    (hactorRef : nullable safeActorRef record.actorRef = .ok record.actorRef)
    (hversion : nullable safeActorRefHashVersion record.actorRefHashVersion =
      .ok record.actorRefHashVersion)
    (hpaired : record.actorRef.isNone = record.actorRefHashVersion.isNone)
    (hidentifiers : ∀ identifier ∈ [record.actorUserId, record.clientId, record.sessionId, record.subjectId],
      nullable safeIdentifier identifier = .ok identifier)
    (heventId : safeIdentifier record.eventId = .ok record.eventId)
    (hhashes : ∀ hash ∈ [record.ipHash, record.userAgentHash], nullable safeHash hash = .ok hash)
    (hmetadataJson : nullable validateMetadataJson record.metadataJson = .ok record.metadataJson)
    (hoccurredAt : canonicalTimestamp record.occurredAt = .ok record.occurredAt)
    (hsequence : safeInteger record.sequence 1 = .ok record.sequence) :
    validatedRecord record = .ok record := by
  simp only [List.forall_mem_cons] at hidentifiers hhashes
  obtain ⟨hactorUserId, hclientId, hsessionId, hsubjectId, -⟩ := hidentifiers
  obtain ⟨hipHash, huserAgentHash, -⟩ := hhashes
  rw [validatedRecord, throwIf_bind_of_not heventType]
  simp only [hactorRef, hversion, hactorUserId, hclientId, heventId, hipHash, hmetadataJson, hoccurredAt,
    hsequence, hsessionId, hsubjectId, huserAgentHash, ok_bind]
  rw [throwIf_bind_of_not fun hunpaired => hunpaired hpaired]
  rfl

/-- The bytes of a record by itself. -/
def recordBytes (record : AuditArchiveRecordV1) : Nat :=
  record.text.encode.length

/-- The bytes of the canonical plaintext of some records. -/
def plaintextBytes (records : List AuditArchiveRecordV1) : Nat :=
  (recordSetText records).encode.length

/-- What the loop over the records establishes, from the state it starts in. -/
structure CheckedRecordSet (previousSequence : Int) (eventIds : List Text) (cumulativeBytes : Nat)
    (records : List AuditArchiveRecordV1) : Prop where
  above : ∀ record ∈ records, previousSequence < record.sequence
  rising : records.Pairwise fun left right => left.sequence < right.sequence
  fresh : ∀ record ∈ records, record.eventId ∉ eventIds
  distinct : records.Pairwise fun left right => left.eventId ≠ right.eventId
  small : ∀ record ∈ records, recordBytes record ≤ AUDIT_ARCHIVE_MAX_RECORD_BYTES
  bounded : cumulativeBytes + (records.map recordBytes).sum ≤ AUDIT_ARCHIVE_MAX_PLAINTEXT_BYTES

theorem checkRecordSet_eq_ok_iff {previousSequence : Int} {eventIds : List Text} {cumulativeBytes : Nat}
    {records : List AuditArchiveRecordV1} (hbytes : cumulativeBytes ≤ AUDIT_ARCHIVE_MAX_PLAINTEXT_BYTES) :
    checkRecordSet previousSequence eventIds cumulativeBytes records = .ok () ↔
      CheckedRecordSet previousSequence eventIds cumulativeBytes records := by
  induction records generalizing previousSequence eventIds cumulativeBytes with
  | nil =>
    refine ⟨fun _ => ⟨?_, .nil, ?_, .nil, ?_, by simpa using hbytes⟩, fun _ => rfl⟩ <;> simp
  | cons record records ih =>
    simp only [checkRecordSet, throwIf_bind_eq_ok_iff, not_or, Int.not_le, Nat.not_lt]
    constructor
    · rintro ⟨⟨habove, hfresh⟩, hsmall, hbounded, hrest⟩
      have hset := (ih hbounded).mp hrest
      refine ⟨?_, .cons hset.above hset.rising, ?_, .cons ?_ hset.distinct, ?_, ?_⟩
      · rw [List.forall_mem_cons]
        exact ⟨habove, fun other hmem => Int.lt_trans habove (hset.above other hmem)⟩
      · rw [List.forall_mem_cons]
        refine ⟨hfresh, fun other hmem hseen => hset.fresh other hmem (List.mem_cons_of_mem _ hseen)⟩
      · intro other hmem heq
        exact hset.fresh other hmem (heq ▸ List.mem_cons_self)
      · rw [List.forall_mem_cons]
        exact ⟨hsmall, hset.small⟩
      · have hsum := hset.bounded
        rw [List.map_cons, List.sum_cons]
        simp only [recordBytes] at hsum ⊢
        omega
    · rintro ⟨habove, hrising, hfresh, hdistinct, hsmall, hbounded⟩
      rw [List.forall_mem_cons] at habove hfresh hsmall
      rw [List.pairwise_cons] at hrising hdistinct
      rw [List.map_cons, List.sum_cons] at hbounded
      have hnext : cumulativeBytes + recordBytes record ≤ AUDIT_ARCHIVE_MAX_PLAINTEXT_BYTES := by omega
      refine ⟨⟨habove.1, hfresh.1⟩, hsmall.1, hnext, (ih hnext).mpr ⟨hrising.1, hrising.2, ?_, hdistinct.2,
        hsmall.2, by simp only [recordBytes] at hbounded ⊢; omega⟩⟩
      intro other hmem hseen
      rcases List.mem_cons.mp hseen with heq | hseen
      · exact hdistinct.1 other hmem heq.symm
      · exact hfresh.2 other hmem hseen

/-- The record sets that are canonical: they are returned as they are, with their bytes. -/
theorem canonicalRecordSet_eq_ok_iff {value : List AuditArchiveRecordV1} {canonical : CanonicalRecordSet} :
    canonicalRecordSet value = .ok canonical ↔
      (value ≠ [] ∧ value.length ≤ AUDIT_ARCHIVE_MAX_RECORDS ∧
        (∀ record ∈ value, validatedRecord record = .ok record) ∧ CheckedRecordSet 0 [] 0 value ∧
        plaintextBytes value ≤ AUDIT_ARCHIVE_MAX_PLAINTEXT_BYTES) ∧
      canonical = { bytes := (recordSetText value).encode, records := value } := by
  simp only [canonicalRecordSet, throwIf_eq_ok_iff, bind_eq_ok_iff, pure_eq_ok_iff, Nat.not_lt,
    exists_const, mapM_eq_ok_iff_of_returns validatedRecord_returns]
  constructor
  · rintro ⟨hnonempty, hcount, records, ⟨rfl, hvalid⟩, _, hchecked, hbytes, rfl⟩
    exact ⟨⟨hnonempty, hcount, hvalid, (checkRecordSet_eq_ok_iff (Nat.zero_le _)).mp hchecked, hbytes⟩, rfl⟩
  · rintro ⟨⟨hnonempty, hcount, hvalid, hchecked, hbytes⟩, rfl⟩
    exact ⟨hnonempty, hcount, value, ⟨rfl, hvalid⟩, (),
      (checkRecordSet_eq_ok_iff (Nat.zero_le _)).mpr hchecked, hbytes, rfl⟩

end pgid.audit
