import PgidSso.Recovery.Completion

open checked transition

namespace pgid.recovery

def Event.startedCode? (event : Event) : Option Text :=
  match event.outcome with
  | .started codeId _ => some codeId
  | _ => none

/-- The set of the code that starts or completes a recovery. -/
def Event.usedSet? (event : Event) : Option Text :=
  match event.outcome with
  | .started _ setId => some setId
  | .completed session _ _ => some session.codeSetId
  | _ => none

/-- What holds of the tables, of the requests and of the history. -/
structure Ledger (past : List Event) (system : System) : Prop where
  sound : system.toTables.Sound system.generated
  sessions : ∀ call phase session, system.calls call = some phase → phase.session? = some session →
    session.Known system.generated system.toTables
  started : ∀ codeId ∈ past.filterMap Event.startedCode?, codeId ∈ system.generated ∧
    ∀ code ∈ system.codes, code.id = codeId → code.consumedAt ≠ none
  revoked : ∀ setId ∈ past.flatMap Event.revokedSetIds, setId ∈ system.generated ∧
    ∀ set ∈ system.codeSets, set.id = setId → set.revokedAt ≠ none

section ledger

variable {past : List Event} {system next : System} {event : Event}

theorem Ledger.start (hstart : system.Start) : Ledger [] system := by
  obtain ⟨hpasskeys, hsets, hcodes, hsessions, -, haudits, hcalls⟩ := hstart
  refine ⟨⟨?_, ?_, ?_, ?_, ?_, ?_, ?_, ?_, ?_, ?_, ?_⟩, ?_, ?_, ?_⟩
  all_goals
    simp [hpasskeys, hsets, hcodes, hsessions, haudits, hcalls]

theorem startedCode_eq_some {codeId : Text} (hstarted : event.startedCode? = some codeId) :
    ∃ setId, event.outcome = .started codeId setId := by
  unfold Event.startedCode? at hstarted
  split at hstarted
  · rename_i found setId houtcome
    cases hstarted
    exact ⟨setId, houtcome⟩
  · cases hstarted

theorem Ledger.move (hledger : Ledger past system) (hmoved : Moved system event next) :
    Ledger (past ++ [event]) next := by
  obtain ⟨hsound, hfollows⟩ := hmoved.kept (hledger.sound.mono hmoved.generated)
  refine ⟨hsound, ?_, ?_, ?_⟩
  · intro call phase session hphase hsession
    rcases hmoved.sessions call phase session hphase hsession with ⟨earlier, hcall, hearlier⟩ |
      ⟨tokenHash, now, hread⟩
    · exact (hledger.sessions call earlier session hcall hearlier).follow hmoved.generated hfollows
    · exact (recoverySession_known hledger.sound hread).follow hmoved.generated hfollows
  · intro codeId hmem
    rw [List.filterMap_append, List.mem_append] at hmem
    rcases hmem with hold | hnew
    · obtain ⟨hgenerated, hconsumed⟩ := hledger.started codeId hold
      refine ⟨hmoved.generated hgenerated, ?_⟩
      intro code hcode hid
      obtain ⟨old, hold, holdId, hkeeps⟩ := hfollows.codes code hcode (hid ▸ hgenerated)
      exact hkeeps (hconsumed old hold (holdId.trans hid))
    · obtain ⟨found, hfound, hstarted⟩ := List.mem_filterMap.mp hnew
      cases List.mem_singleton.mp hfound
      obtain ⟨setId, houtcome⟩ := startedCode_eq_some hstarted
      obtain ⟨input, rfl, -, hstart⟩ := hmoved.started codeId setId houtcome
      obtain ⟨⟨code, hcode, hid, -⟩, -, hconsumed⟩ := startRecovery_started hledger.sound hstart
      exact ⟨hmoved.generated (hid ▸ hledger.sound.codes code hcode), hconsumed⟩
  · intro setId hmem
    rw [List.flatMap_append, List.mem_append, List.flatMap_singleton] at hmem
    rcases hmem with hold | hnew
    · obtain ⟨hgenerated, hrevoked⟩ := hledger.revoked setId hold
      refine ⟨hmoved.generated hgenerated, ?_⟩
      intro set hset hid
      obtain ⟨old, hold, holdId, -, -, hkeeps⟩ := hfollows.sets set hset (hid ▸ hgenerated)
      exact hkeeps (hrevoked old hold (holdId.trans hid))
    · obtain ⟨set, hset, rfl, later, hlater, hlaterId, hrevoked⟩ := hmoved.revoked setId hnew
      refine ⟨hmoved.generated (hledger.sound.sets set hset), ?_⟩
      intro found hfound hid
      cases table.eq_of_key hsound.setIds hfound hlater (hid.trans hlaterId.symm)
      exact hrevoked

theorem ledger_of_history {stepUpMaxAgeMs : Int} (hhistory : History stepUpMaxAgeMs past system) :
    Ledger past system :=
  hhistory.invariant Ledger.start fun hledger hstep => hledger.move (moved_of_step hstep)

/-- A code that starts a recovery has not started one before. -/
theorem Ledger.started_fresh (hledger : Ledger past system) (hmoved : Moved system event next) :
    ∀ codeId, event.startedCode? = some codeId → codeId ∉ past.filterMap Event.startedCode? := by
  intro codeId hstarted hmem
  obtain ⟨setId, houtcome⟩ := startedCode_eq_some hstarted
  obtain ⟨input, rfl, -, hstart⟩ := hmoved.started codeId setId houtcome
  obtain ⟨⟨code, hcode, hid, hlive⟩, -, -⟩ := startRecovery_started hledger.sound hstart
  exact (hledger.started _ hmem).2 code hcode hid hlive

theorem Ledger.complete (hledger : Ledger past system) {call : Nat} {session : RecoverySession}
    {tokenHash : Text} {completion : Completion} {result : Bool} {tables : Tables}
    (hcall : system.calls call = some (.challenged session tokenHash)) (hunused : system.Unused completion.ids)
    (hcomplete : completeRecovery session tokenHash completion system.toTables = .ok (result, tables)) :
    (result = true ∧ completion.Completable session tokenHash system.toTables ∧
        Completed session completion system.toTables tables) ∨
      (result = false ∧ tables = system.toTables) := by
  by_cases hcompletable : completion.Completable session tokenHash system.toTables
  · have hknown := hledger.sessions call _ session hcall rfl
    obtain ⟨hresult, heffects⟩ :=
      completeRecovery_of_completable hledger.sound hunused.2 hknown hcompletable hcomplete
    exact .inl ⟨hresult, hcompletable, heffects⟩
  · exact .inr (completeRecovery_of_not_completable hledger.sound hunused.2 hcompletable hcomplete)

/-- The set of a code that starts or completes a recovery has never been revoked. -/
theorem Ledger.used_active (hledger : Ledger past system) (hmoved : Moved system event next) :
    ∀ setId, event.usedSet? = some setId → setId ∉ past.flatMap Event.revokedSetIds := by
  intro setId hused hmem
  have hrevoked := (hledger.revoked setId hmem).2
  unfold Event.usedSet? at hused
  split at hused
  · rename_i codeId found houtcome
    cases hused
    obtain ⟨input, -, rfl, hstart⟩ := hmoved.started codeId setId houtcome
    obtain ⟨-, ⟨set, hset, hid, hactive⟩, -⟩ := startRecovery_started hledger.sound hstart
    exact hrevoked set hset hid hactive
  · rename_i session tokenHash completion houtcome
    cases hused
    obtain ⟨⟨call, hcall⟩, hunused, hcomplete⟩ := hmoved.completed session tokenHash completion houtcome
    rcases hledger.complete hcall hunused hcomplete with ⟨-, hcompletable, -⟩ | ⟨hfalse, -⟩
    · obtain ⟨⟨row, -, -, -, -, hrowSet, -, ⟨-, -, set, hset, hid, hactive, -⟩, -⟩, -⟩ := hcompletable
      exact hrevoked set hset (hid.trans hrowSet) hactive
    · cases hfalse
  · cases hused

end ledger

/-- The lifecycle of recovery codes is safe in every history: a code starts one recovery
at most, a user has one active set and one recovery session at most, no code of a revoked
set starts or completes a recovery, and a verify batch has all of its effects or none. -/
theorem recovery_lifecycle_safe {stepUpMaxAgeMs : Int} {past : List Event} {system : System}
    (hhistory : History stepUpMaxAgeMs past system) :
    (past.filterMap Event.startedCode?).Nodup ∧
      (∀ left ∈ system.codeSets, ∀ right ∈ system.codeSets, left.revokedAt = none → right.revokedAt = none →
        left.userId = right.userId → left = right) ∧
      (system.recoverySessions.map (·.userId)).Nodup ∧
      Each (fun before event => ∀ setId, event.usedSet? = some setId →
        setId ∉ before.flatMap Event.revokedSetIds) past ∧
      ∀ call completion event next,
        perform stepUpMaxAgeMs system (.complete call completion) = some (event, next) →
          (∃ session tokenHash, event.outcome = .completed session tokenHash completion ∧
            Completed session completion system.toTables next.toTables) ∨
          (event.outcome = .notCompleted ∧ next.toTables = system.toTables) := by
  have hledger := ledger_of_history hhistory
  refine ⟨?_, hledger.sound.active, hledger.sound.users, ?_, ?_⟩
  · apply nodup_of_each
    exact Trace.each ledger_of_history (fun h hstep => h.started_fresh (moved_of_step hstep)) hhistory
  · exact Trace.each ledger_of_history (fun h hstep => h.used_active (moved_of_step hstep)) hhistory
  · intro call completion event next hperform
    rw [perform] at hperform
    split at hperform
    · rename_i session tokenHash hcall
      split at hperform
      · rename_i hunused
        split at hperform
        · rename_i tables hcomplete
          cases hperform
          rcases hledger.complete hcall hunused hcomplete with ⟨-, -, heffects⟩ | ⟨hfalse, -⟩
          · exact .inl ⟨session, tokenHash, rfl, heffects⟩
          · cases hfalse
        · rename_i tables hcomplete
          cases hperform
          rcases hledger.complete hcall hunused hcomplete with ⟨htrue, -⟩ | ⟨-, hsame⟩
          · cases htrue
          · exact .inr ⟨rfl, hsame⟩
        · cases hperform
          exact .inr ⟨rfl, rfl⟩
      · cases hperform
    · cases hperform

/-- A UUID that is told apart by its last two digits. -/
def uuidEnding (ending : String) : Text :=
  Text.of "00000000-0000-4000-8000-0000000000" ++ Text.of ending

/-- A hash in base64url that is told apart by its last two characters. -/
def hashEnding (ending : String) : Text :=
  List.replicate 41 (Text.unit 'A') ++ Text.of ending

/-- Ten codes that are told apart by a letter and a digit. -/
def tenCodes (letter : Char) : GeneratedCodes where
  codes := (List.range 10).map fun number =>
    (uuidEnding (String.ofList [letter, Nat.digitChar number]),
      hashEnding (String.ofList [letter, Nat.digitChar number]))
  count := rfl

/-- A user who issues codes, and recovers with the first of them on a new passkey. -/
def recoverAccount : List Action :=
  [ .registerUser (Text.of "user"),
    .registerPasskey
      { id := Text.of "lost", userId := Text.of "user", credentialID := Text.of "credential"
        publicKey := Text.of "key", counter := 0, createdAt := 0 },
    .writeSessions
      [{ id := Text.of "session", userId := Text.of "user", createdAt := 0, expiresAt := 9000000
         passkeyStepUpAt := some 1000 }],
    .requestManagement 0 (Text.of "session") (Text.of "user"),
    .rotate 0 (uuidEnding "01") (uuidEnding "02") (tenCodes 'a') 2000,
    .requestStart 1 (hashEnding "a0"),
    .start 1
      { codeHash := hashEnding "a0"
        candidate := some
          { codeId := uuidEnding "a0", setId := uuidEnding "02", userId := Text.of "user", generation := 1 }
        randomCodeId := uuidEnding "03", randomSetId := uuidEnding "04", randomUserId := uuidEnding "05"
        tokenHash := hashEnding "06", sessionId := uuidEnding "07", eventId := uuidEnding "08", now := 100000 },
    .requestOptions 2 (hashEnding "06") 110000,
    .storeChallenge 2 (uuidEnding "09") (hashEnding "10"),
    .requestVerify 3 (hashEnding "06") 120000,
    .takeChallenge 3 (uuidEnding "09"),
    .complete 3
      { passkeyId := Text.of "new", credentialID := Text.of "other", publicKey := Text.of "key", counter := 0
        eventId := uuidEnding "11", nextSetId := uuidEnding "12", generated := tenCodes 'b', now := 130000 } ]

theorem recovery_lifecycle_safe_recoverAccount :
    ∃ past system, History 300000 past system ∧ (past.filterMap Event.usedSet?).length = 2 ∧
      system.codes.length = 10 ∧ system.recoverySessions = [] ∧
      (past.filterMap Event.startedCode?).Nodup := by
  have hhistory : History 300000 _ _ := replay_trace System.empty_start recoverAccount
  exact ⟨_, _, hhistory, by decide, by decide, by decide, (recovery_lifecycle_safe hhistory).1⟩

end pgid.recovery
