import PgidSso.Registration.System

open checked transition

namespace pgid.registration

variable {platform : Platform} {config : RuntimeConfig} {intents next : List IntentRow}

section statements

theorem commitIntents_eq_ok_iff {rows : List IntentRow} :
    commitIntents rows = .ok next ↔ next = rows ∧ UniqueIntents rows ∧ ∀ row ∈ rows, row.Checks := by
  rw [commitIntents, throwIf_bind_eq_ok_iff, pure_eq_ok_iff, Decidable.not_not]
  constructor
  · rintro ⟨hchecks, rfl⟩
    exact ⟨rfl, hchecks⟩
  · rintro ⟨rfl, hchecks⟩
    exact ⟨hchecks, rfl⟩

/-- An intent is issued after a verified challenge, unbound and unconsumed. -/
theorem issue_ok {input : RegistrationIntentRequest} {rateLimit : RateLimit}
    {payload : Option TurnstileSiteverifyPayload} {intentId : Text} {now : Int} {intent : IntentRow}
    (hissue : issuePublicRegistrationIntent platform config input rateLimit payload intentId now intents =
      .ok (intent, next)) :
    verifyTurnstileRegistrationToken config payload = .verified intent.turnstileHostname ∧
      intent.intentHash = platform.hashPublicRegistrationValue intentId ∧
      intent.oauthReferenceHash = none ∧ intent.consumedAt = none ∧
      next = table.delete (fun row : IntentRow => row.expiresAt ≤ now ∨ row.consumedAt ≠ none) intents ++
        [intent] ∧ UniqueIntents next := by
  unfold issuePublicRegistrationIntent at hissue
  split at hissue
  · exact absurd hissue throw_ne_ok
  · simp only [throwIf_bind_eq_ok_iff] at hissue
    obtain ⟨-, -, -, hissue⟩ := hissue
    split at hissue
    · exact absurd hissue throw_ne_ok
    · exact absurd hissue throw_ne_ok
    · rename_i hostname hverified
      simp only [bind_eq_ok_iff, commitIntents_eq_ok_iff, pure_eq_ok_iff, Prod.mk.injEq] at hissue
      obtain ⟨rows, ⟨rfl, hunique, -⟩, rfl, rfl⟩ := hissue
      exact ⟨hverified, rfl, rfl, rfl, rfl, hunique⟩

/-- A binding ties every available row of the intent to its reference and state. -/
theorem bind_ok {prepared : PreparedPublicRegistrationOAuthStart} {oauthState : Text} {now : Int}
    (hbind : bindPublicRegistrationOAuthState platform config prepared oauthState now intents = .ok next) :
    ∃ registration,
      next = table.update
        (fun row : IntentRow => row.Available prepared.intentHash registration now)
        (fun row =>
          { row with
            oauthReferenceHash := some prepared.oauthReferenceHash
            oauthStateHash := some (platform.hashPublicRegistrationValue oauthState) }) intents ∧
      ∃ row ∈ intents, row.Available prepared.intentHash registration now := by
  unfold bindPublicRegistrationOAuthState at hbind
  split at hbind
  · exact absurd hbind throw_ne_ok
  · rename_i registration hregistration
    simp only [throwIf_bind_eq_ok_iff] at hbind
    obtain ⟨-, hbind⟩ := hbind
    simp only [bind_eq_ok_iff, commitIntents_eq_ok_iff, throwIf_eq_ok_iff, exists_const, pure_eq_ok_iff,
      table.matched_eq_nil_iff] at hbind
    obtain ⟨rows, ⟨rfl, -⟩, hmatched, rfl⟩ := hbind
    refine ⟨registration, rfl, ?_⟩
    by_contra hnone
    exact hmatched fun row hmem havailable => hnone ⟨row, hmem, havailable⟩

/-- A claim consumes the rows of its binding and returns one of them. -/
theorem claim_ok {binding : Option PublicRegistrationOAuthBinding} {now : Int} {intent : IntentRow}
    {claimed : ClaimedRegistrationIntent}
    (hclaim : claimPublicRegistrationIntent platform config binding now intents =
      .ok ((intent, claimed), next)) :
    ∃ registration pair, config.publicRegistration = some registration ∧ binding = some pair ∧
      intent ∈ intents ∧ intent.Claimable platform pair registration now ∧
      next = table.update (fun row : IntentRow => row.Claimable platform pair registration now)
        (fun row => { row with consumedAt := some now }) intents := by
  unfold claimPublicRegistrationIntent at hclaim
  split at hclaim
  · rename_i registration pair hregistration
    simp only [bind_eq_ok_iff, commitIntents_eq_ok_iff] at hclaim
    obtain ⟨rows, ⟨rfl, -⟩, hclaim⟩ := hclaim
    split at hclaim
    · exact absurd hclaim throw_ne_ok
    · rename_i row others hmatched
      simp only [pure_eq_ok_iff, Prod.mk.injEq] at hclaim
      obtain ⟨⟨rfl, -⟩, rfl⟩ := hclaim
      have hrow : row ∈ table.matched
          (fun row : IntentRow => row.Claimable platform pair registration now) intents := by
        rw [hmatched]
        exact List.mem_cons_self
      obtain ⟨hmem, hclaimable⟩ := table.mem_matched.mp hrow
      exact ⟨registration, pair, hregistration, rfl, hmem, hclaimable, rfl⟩
  · exact absurd hclaim throw_ne_ok

end statements

namespace Event

def boundIntent? : Event → Option Text
  | .bound intentHash _ _ => some intentHash
  | _ => none

def boundReference? : Event → Option Text
  | .bound _ oauthReference _ => some oauthReference
  | _ => none

def claimedIntent? : Event → Option Text
  | .claimed _ _ _ intent _ => some intent.intentHash
  | _ => none

/-- An event that is no issue, binding, claim or grant. -/
def Aside : Event → Prop
  | .issued _ _ _ | .bound _ _ _ | .claimed _ _ _ _ _ | .granted _ _ _ _ _ _ => False
  | _ => True

theorem Aside.keys {event : Event} (haside : event.Aside) :
    event.boundIntent? = none ∧ event.boundReference? = none ∧ event.claimedIntent? = none := by
  cases event with
  | bound => exact absurd haside id
  | claimed => exact absurd haside id
  | _ => exact ⟨rfl, rfl, rfl⟩

end Event

/-- What a step does to the intents, the generated texts and the calls. -/
inductive Move (platform : Platform) (system : System) : Event → System → Prop
  | issued {config : RuntimeConfig} {payload : Option TurnstileSiteverifyPayload} {intent : IntentRow}
      {intentId : Text} {now : Int} {intents : List IntentRow} (hfresh : intentId ∉ system.generated)
      (hverified :
        verifyTurnstileRegistrationToken config payload = .verified intent.turnstileHostname)
      (hhash : intent.intentHash = platform.hashPublicRegistrationValue intentId)
      (hunbound : intent.oauthReferenceHash = none) (hunconsumed : intent.consumedAt = none)
      (hintents : intents = table.delete
        (fun row : IntentRow => row.expiresAt ≤ now ∨ row.consumedAt ≠ none) system.intents ++ [intent])
      (hunique : UniqueIntents intents) :
      Move platform system (.issued intent payload config)
        { system with intents, generated := intentId :: system.generated }
  | prepared {call : Nat} {config : RuntimeConfig} {prepared : PreparedPublicRegistrationOAuthStart}
      (hfresh : prepared.oauthReference ∉ system.generated)
      (hhash : prepared.oauthReferenceHash =
        platform.hashPublicRegistrationValue prepared.oauthReference) :
      Move platform system .refused
        ({ system with generated := prepared.oauthReference :: system.generated }.setCall call
          (.prepared config prepared))
  | bound {call : Nat} {config : RuntimeConfig} {prepared : PreparedPublicRegistrationOAuthStart}
      {registration : PublicRegistrationConfig} {oauthState : Text} {now : Int} {row : IntentRow}
      (hcall : system.calls call = some (.prepared config prepared)) (hrow : row ∈ system.intents)
      (havailable : row.Available prepared.intentHash registration now) :
      Move platform system (.bound prepared.intentHash prepared.oauthReference oauthState)
        ({ system with
            intents := table.update
              (fun row : IntentRow => row.Available prepared.intentHash registration now)
              (fun row =>
                { row with
                  oauthReferenceHash := some prepared.oauthReferenceHash
                  oauthStateHash := some (platform.hashPublicRegistrationValue oauthState) })
              system.intents }.setCall call .finished)
  | claimed {call : Nat} {config : RuntimeConfig} {input : RegistrationInput}
      {legalAcceptance : Option ClaimedRegistrationIntent} {registration : PublicRegistrationConfig}
      {binding : PublicRegistrationOAuthBinding} {intent : IntentRow} {now : Int}
      (hconfig : config.publicRegistration = some registration) (hintent : intent ∈ system.intents)
      (hclaimable : intent.Claimable platform binding registration now) :
      Move platform system (.claimed call config binding intent now)
        ({ system with
            intents := table.update
              (fun row : IntentRow => row.Claimable platform binding registration now)
              (fun row => { row with consumedAt := some now }) system.intents }.setCall call
          (.claimed config input legalAcceptance))
  | authorized {call : Nat} {config : RuntimeConfig} {input : RegistrationInput}
      {legalAcceptance : Option ClaimedRegistrationIntent} (hmode : config.registrationMode = .invite) :
      Move platform system (.authorized call)
        (system.setCall call (.claimed config input legalAcceptance))
  | granted {call : Nat} {config : RuntimeConfig} {input : RegistrationInput}
      {legalAcceptance : Option ClaimedRegistrationIntent} {invitation : Option InvitationRow}
      {grant : RegistrationGrant} {email : Text} {now : Int}
      (hcall : system.calls call = some (.claimed config input legalAcceptance)) :
      Move platform system (.granted call config email invitation grant now)
        (system.setCall call (.granted config input invitation grant))
  /-- A step without a part in prerequisites: it neither prepares nor claims. -/
  | other {event : Event} {next : System} (hintents : next.intents = system.intents)
      (hgenerated : system.generated ⊆ next.generated)
      (hprepared : ∀ call config prepared, next.calls call = some (.prepared config prepared) →
        system.calls call = some (.prepared config prepared))
      (hclaimed : ∀ call config input legalAcceptance,
        next.calls call = some (.claimed config input legalAcceptance) →
          system.calls call = some (.claimed config input legalAcceptance))
      (hevent : event.Aside) : Move platform system event next

/-- A step that ends a call or moves it to a phase after its grant. -/
theorem Move.other_setCall {system changed : System} {call : Nat} {phase : Call} {event : Event}
    (hintents : changed.intents = system.intents) (hgenerated : changed.generated = system.generated)
    (hcalls : changed.calls = system.calls) (hevent : event.Aside)
    (hprepared : ∀ config prepared, phase ≠ .prepared config prepared)
    (hclaimed : ∀ config input legalAcceptance, phase ≠ .claimed config input legalAcceptance) :
    Move platform system event (changed.setCall call phase) := by
  refine .other hintents (hgenerated ▸ List.Subset.refl _) ?_ ?_ hevent
  · intro other config prepared hfound
    rcases setCall_calls hfound with ⟨-, heq⟩ | ⟨-, hfound⟩
    · exact absurd heq.symm (hprepared config prepared)
    · exact hcalls ▸ hfound
  · intro other config input legalAcceptance hfound
    rcases setCall_calls hfound with ⟨-, heq⟩ | ⟨-, hfound⟩
    · exact absurd heq.symm (hclaimed config input legalAcceptance)
    · exact hcalls ▸ hfound

theorem Move.refuse {system : System} (call : Nat) :
    Move platform system (system.refuse call).1 (system.refuse call).2 :=
  .other_setCall rfl rfl rfl trivial (by simp) (by simp)

theorem prepare_ok {intentId oauthReference : Text} {now : Int}
    {prepared : PreparedPublicRegistrationOAuthStart}
    (hprepare : preparePublicRegistrationOAuthStart platform config intentId oauthReference now intents =
      .ok prepared) :
    prepared.oauthReference = oauthReference ∧
      prepared.oauthReferenceHash = platform.hashPublicRegistrationValue oauthReference := by
  unfold preparePublicRegistrationOAuthStart at hprepare
  split at hprepare
  · exact absurd hprepare throw_ne_ok
  · simp only [throwIf_bind_eq_ok_iff, pure_eq_ok_iff] at hprepare
    obtain ⟨-, -, rfl⟩ := hprepare
    exact ⟨rfl, rfl⟩

theorem authorizeClaim_ok {input : RegistrationInput} {rateLimit : Bool} {now : Int}
    {claimed : Option (IntentRow × ClaimedRegistrationIntent)}
    (hclaim : authorizeRegistrationClaim platform config input rateLimit now intents =
      .ok (claimed, next)) :
    (config.registrationMode = .invite ∧ claimed = none ∧ next = intents) ∨
      ∃ row, claimed = some row ∧
        claimPublicRegistrationIntent platform config input.registrationBinding now intents =
          .ok (row, next) := by
  simp only [authorizeRegistrationClaim, throwIf_bind_eq_ok_iff] at hclaim
  obtain ⟨-, -, hclaim⟩ := hclaim
  split at hclaim
  · rw [throwIf_bind_eq_ok_iff] at hclaim
    obtain ⟨-, hclaim⟩ := hclaim
    simp only [bind_eq_ok_iff, pure_eq_ok_iff, Prod.mk.injEq] at hclaim
    obtain ⟨⟨row, rows⟩, hrow, rfl, rfl⟩ := hclaim
    exact .inr ⟨row, rfl, hrow⟩
  · rename_i hmode
    simp only [pure_eq_ok_iff, Prod.mk.injEq] at hclaim
    exact .inl ⟨hmode, hclaim.1.symm, hclaim.2.symm⟩

theorem step_moves {system next : System} {event : Event} (hstep : Step platform system event next) :
    Move platform system event next := by
  obtain ⟨action, hperform⟩ := hstep
  cases action with
  | issue config input rateLimit payload intentId now =>
    simp only [perform] at hperform
    split at hperform
    · cases hperform
    · rename_i hfresh
      split at hperform
      · cases hperform
        exact .other rfl (List.Subset.refl _) (fun _ _ _ h => h) (fun _ _ _ _ h => h) trivial
      · rename_i intent rows hissue
        cases hperform
        obtain ⟨hverified, hhash, hunbound, hunconsumed, hrows, hunique⟩ := issue_ok hissue
        exact .issued hfresh hverified hhash hunbound hunconsumed hrows hunique
  | prepare call config intentId oauthReference now =>
    simp only [perform] at hperform
    split at hperform
    · cases hperform
    · rename_i hnew
      rw [not_or] at hnew
      split at hperform
      · cases hperform
        exact .refuse call
      · rename_i prepared hprepare
        cases hperform
        obtain ⟨rfl, hhash⟩ := prepare_ok hprepare
        exact .prepared hnew.1 hhash
  | bind call oauthState now =>
    simp only [perform] at hperform
    split at hperform
    · rename_i config prepared hcall
      split at hperform
      · cases hperform
        exact .refuse call
      · rename_i rows hbind
        cases hperform
        obtain ⟨registration, rfl, row, hrow, havailable⟩ := bind_ok hbind
        exact .bound hcall hrow havailable
    · cases hperform
  | authorize call config input rateLimit now =>
    simp only [perform] at hperform
    split at hperform
    · cases hperform
    · split at hperform
      · cases hperform
        exact .refuse call
      · rename_i claimed rows hclaim
        rcases authorizeClaim_ok hclaim with ⟨hmode, rfl, rfl⟩ | ⟨⟨intent, legal⟩, rfl, hrow⟩
        · simp only [Option.some.injEq, Prod.mk.injEq] at hperform
          obtain ⟨rfl, rfl⟩ := hperform
          exact .authorized hmode
        · obtain ⟨registration, pair, hconfig, hbinding, hintent, hclaimable, rfl⟩ := claim_ok hrow
          simp only [hbinding, Option.some.injEq, Prod.mk.injEq] at hperform
          obtain ⟨rfl, rfl⟩ := hperform
          exact .claimed hconfig hintent hclaimable
  | grant call now =>
    simp only [perform] at hperform
    split at hperform
    · rename_i config input legalAcceptance hcall
      split at hperform
      · cases hperform
        exact .refuse call
      · cases hperform
        exact .granted hcall
    · cases hperform
  | insertUser call userId =>
    simp only [perform] at hperform
    split at hperform
    · split at hperform
      · cases hperform
        exact .refuse call
      · cases hperform
        exact .other_setCall rfl rfl rfl trivial (by simp) (by simp)
    · cases hperform
  | consume call now =>
    simp only [perform] at hperform
    split at hperform
    · cases hperform
      exact .other_setCall rfl rfl rfl trivial (by simp) (by simp)
    · cases hperform
  | invite actorCommits actorUserId email id role now =>
    simp only [perform] at hperform
    split at hperform
    · cases hperform
    · split at hperform
      · cases hperform
        exact .other rfl (List.Subset.refl _) (fun _ _ _ h => h) (fun _ _ _ _ h => h) trivial
      · cases hperform
        exact .other rfl (List.subset_cons_self _ _) (fun _ _ _ h => h) (fun _ _ _ _ h => h) trivial

/-- An issue of the intent of a row, after a verified challenge. -/
def IssuedVerified (past : List Event) (row : IntentRow) : Prop :=
  ∃ intent payload config, .issued intent payload config ∈ past ∧
    verifyTurnstileRegistrationToken config payload = .verified intent.turnstileHostname ∧
    intent.intentHash = row.intentHash ∧ intent.termsVersion = row.termsVersion ∧
    intent.privacyVersion = row.privacyVersion ∧ intent.expiresAt = row.expiresAt

/-- What the tables and the calls know of the events before. -/
structure Ledger (platform : Platform) (past : List Event) (system : System) : Prop where
  unique : (system.intents.map (·.intentHash)).Nodup
  generated : ∀ row ∈ system.intents, ∃ id ∈ system.generated,
    row.intentHash = platform.hashPublicRegistrationValue id
  recorded : ∀ intentHash, intentHash ∈ past.filterMap Event.boundIntent? ∨
      intentHash ∈ past.filterMap Event.claimedIntent? →
    ∃ id ∈ system.generated, intentHash = platform.hashPublicRegistrationValue id
  issued : ∀ row ∈ system.intents, IssuedVerified past row
  unbound : ∀ row ∈ system.intents, row.oauthReferenceHash = none →
    row.intentHash ∉ past.filterMap Event.boundIntent?
  bound : ∀ row ∈ system.intents, ∀ referenceHash ∈ row.oauthReferenceHash,
    ∃ oauthReference oauthState, .bound row.intentHash oauthReference oauthState ∈ past ∧
      referenceHash = platform.hashPublicRegistrationValue oauthReference ∧
      row.oauthStateHash = some (platform.hashPublicRegistrationValue oauthState)
  unclaimed : ∀ row ∈ system.intents, row.consumedAt = none →
    row.intentHash ∉ past.filterMap Event.claimedIntent?
  boundReference : ∀ oauthReference ∈ past.filterMap Event.boundReference?,
    oauthReference ∈ system.generated
  prepared : ∀ call config prepared, system.calls call = some (.prepared config prepared) →
    prepared.oauthReference ∈ system.generated ∧
      prepared.oauthReferenceHash = platform.hashPublicRegistrationValue prepared.oauthReference ∧
      prepared.oauthReference ∉ past.filterMap Event.boundReference?
  distinct : ∀ left right config config' prepared prepared',
    system.calls left = some (.prepared config prepared) →
      system.calls right = some (.prepared config' prepared') →
        prepared.oauthReference = prepared'.oauthReference → left = right
  authorized : ∀ call config input legalAcceptance,
    system.calls call = some (.claimed config input legalAcceptance) →
      config.registrationMode = .«public» →
        ∃ binding intent now, .claimed call config binding intent now ∈ past

theorem Ledger.start {system : System} (hstart : system.Start) : Ledger platform [] system := by
  obtain ⟨hintents, -, -, -, hcalls⟩ := hstart
  constructor <;> simp [hintents, hcalls]

theorem IssuedVerified.snoc {past : List Event} {row : IntentRow} {event : Event}
    (hissued : IssuedVerified past row) : IssuedVerified (past ++ [event]) row := by
  obtain ⟨intent, payload, config, hmem, hrest⟩ := hissued
  exact ⟨intent, payload, config, List.mem_append_left _ hmem, hrest⟩

/-- The rows keep their knowledge when they are among the earlier ones, the generated
texts grow, at most one call enters with a new reference, and the new event is neither a
binding nor a claim. -/
theorem Ledger.step_aside {past : List Event} {system next : System} {event : Event}
    (hledger : Ledger platform past system) (entering : Option Nat)
    (hintents : next.intents.Sublist system.intents) (hgenerated : system.generated ⊆ next.generated)
    (hprepared : ∀ call config prepared, next.calls call = some (.prepared config prepared) →
      system.calls call = some (.prepared config prepared) ∨
        (entering = some call ∧ prepared.oauthReference ∉ system.generated ∧
          prepared.oauthReference ∈ next.generated ∧
          prepared.oauthReferenceHash = platform.hashPublicRegistrationValue prepared.oauthReference))
    (hclaimed : ∀ call config input legalAcceptance,
      next.calls call = some (.claimed config input legalAcceptance) →
        system.calls call = some (.claimed config input legalAcceptance) ∨
          config.registrationMode = .invite)
    (hbound : event.boundIntent? = none) (hreference : event.boundReference? = none)
    (hclaim : event.claimedIntent? = none) : Ledger platform (past ++ [event]) next := by
  have hsubset := hintents.subset
  have hboundIntents : (past ++ [event]).filterMap Event.boundIntent? = past.filterMap Event.boundIntent? := by
    simp [hbound]
  have hreferences :
      (past ++ [event]).filterMap Event.boundReference? = past.filterMap Event.boundReference? := by
    simp [hreference]
  have hclaims :
      (past ++ [event]).filterMap Event.claimedIntent? = past.filterMap Event.claimedIntent? := by
    simp [hclaim]
  refine ⟨hledger.unique.sublist (hintents.map _), ?_, ?_, ?_, ?_, ?_, ?_, ?_, ?_, ?_, ?_⟩
  · intro row hrow
    obtain ⟨id, hid, hhash⟩ := hledger.generated row (hsubset hrow)
    exact ⟨id, hgenerated hid, hhash⟩
  · rw [hboundIntents, hclaims]
    intro intentHash hrecorded
    obtain ⟨id, hid, hhash⟩ := hledger.recorded intentHash hrecorded
    exact ⟨id, hgenerated hid, hhash⟩
  · intro row hrow
    exact (hledger.issued row (hsubset hrow)).snoc
  · rw [hboundIntents]
    exact fun row hrow => hledger.unbound row (hsubset hrow)
  · intro row hrow referenceHash href
    obtain ⟨reference, state, hmem, hrest⟩ := hledger.bound row (hsubset hrow) referenceHash href
    exact ⟨reference, state, List.mem_append_left _ hmem, hrest⟩
  · rw [hclaims]
    exact fun row hrow => hledger.unclaimed row (hsubset hrow)
  · rw [hreferences]
    exact fun reference hmem => hgenerated (hledger.boundReference reference hmem)
  · rw [hreferences]
    intro call config prepared hcall
    rcases hprepared call config prepared hcall with hcall | ⟨-, hnew, hmem, hhash⟩
    · obtain ⟨hmem, hrest⟩ := hledger.prepared call config prepared hcall
      exact ⟨hgenerated hmem, hrest⟩
    · exact ⟨hmem, hhash, fun hbound => hnew (hledger.boundReference _ hbound)⟩
  · intro left right config config' first second hleft hright heq
    rcases hprepared left config first hleft with hleft | ⟨hleft, hnew, -⟩
    · rcases hprepared right config' second hright with hright | ⟨-, hnew, -⟩
      · exact hledger.distinct left right config config' first second hleft hright heq
      · exact absurd (heq ▸ (hledger.prepared left config first hleft).1) hnew
    · rcases hprepared right config' second hright with hright | ⟨hright, -⟩
      · exact absurd (heq ▸ (hledger.prepared right config' second hright).1) hnew
      · rw [hleft, Option.some.injEq] at hright
        exact hright
  · intro call config input legalAcceptance hcall hmode
    rcases hclaimed call config input legalAcceptance hcall with hcall | hinvite
    · obtain ⟨binding, intent, now, hmem⟩ := hledger.authorized call config input legalAcceptance hcall hmode
      exact ⟨binding, intent, now, List.mem_append_left _ hmem⟩
    · rw [hinvite] at hmode
      cases hmode

/-- A new row joins, unbound and unconsumed, under the hash of a generated text that no
row and no event has. -/
theorem Ledger.insert {past : List Event} {system : System} {row : IntentRow} {id : Text}
    (hledger : Ledger platform past system) (hid : id ∈ system.generated)
    (hhash : row.intentHash = platform.hashPublicRegistrationValue id)
    (hunique : ((system.intents ++ [row]).map (·.intentHash)).Nodup)
    (hnew : row.intentHash ∉ past.filterMap Event.boundIntent? ∧
      row.intentHash ∉ past.filterMap Event.claimedIntent?)
    (hunbound : row.oauthReferenceHash = none) (hissued : IssuedVerified past row) :
    Ledger platform past { system with intents := system.intents ++ [row] } := by
  refine ⟨hunique, ?_, hledger.recorded, ?_, ?_, ?_, ?_, hledger.boundReference, hledger.prepared,
    hledger.distinct, hledger.authorized⟩
  all_goals
    intro other hother
    rcases List.mem_append.mp hother with hother | hother
  · exact hledger.generated other hother
  · rw [List.mem_singleton.mp hother]
    exact ⟨id, hid, hhash⟩
  · exact hledger.issued other hother
  · rw [List.mem_singleton.mp hother]
    exact hissued
  · exact hledger.unbound other hother
  · rw [List.mem_singleton.mp hother]
    exact fun _ => hnew.1
  · exact hledger.bound other hother
  · rw [List.mem_singleton.mp hother, hunbound]
    exact fun referenceHash hmem => absurd hmem (by simp)
  · exact hledger.unclaimed other hother
  · rw [List.mem_singleton.mp hother]
    exact fun _ => hnew.2

/-- A binding: the available row is the only one of its intent, and takes the reference
and the state of the call. -/
theorem Ledger.step_bound {past : List Event} {system : System} {call : Nat} {config : RuntimeConfig}
    {prepared : PreparedPublicRegistrationOAuthStart} {registration : PublicRegistrationConfig}
    {oauthState : Text} {now : Int} {row : IntentRow} (hledger : Ledger platform past system)
    (hcall : system.calls call = some (.prepared config prepared)) (hrow : row ∈ system.intents)
    (havailable : row.Available prepared.intentHash registration now) :
    Ledger platform (past ++ [.bound prepared.intentHash prepared.oauthReference oauthState])
      ({ system with
          intents := table.update
            (fun row : IntentRow => row.Available prepared.intentHash registration now)
            (fun row =>
              { row with
                oauthReferenceHash := some prepared.oauthReferenceHash
                oauthStateHash := some (platform.hashPublicRegistrationValue oauthState) })
            system.intents }.setCall call .finished) := by
  obtain ⟨hgenerated, hhash, hunused⟩ := hledger.prepared call config prepared hcall
  have hboundIntents : ∀ intentHash, intentHash ∈ (past ++ [Event.bound prepared.intentHash
      prepared.oauthReference oauthState]).filterMap Event.boundIntent? ↔
        intentHash ∈ past.filterMap Event.boundIntent? ∨ intentHash = prepared.intentHash := by
    intro intentHash
    rw [List.filterMap_append, List.mem_append]
    exact or_congr_right List.mem_singleton
  have hreferences : ∀ reference, reference ∈ (past ++ [Event.bound prepared.intentHash
      prepared.oauthReference oauthState]).filterMap Event.boundReference? ↔
        reference ∈ past.filterMap Event.boundReference? ∨ reference = prepared.oauthReference := by
    intro reference
    rw [List.filterMap_append, List.mem_append]
    exact or_congr_right List.mem_singleton
  have hclaims : (past ++ [Event.bound prepared.intentHash prepared.oauthReference oauthState]).filterMap
      Event.claimedIntent? = past.filterMap Event.claimedIntent? := by
    simp [Event.claimedIntent?]
  -- a row that is still unbound afterwards belongs to another intent
  have hother : ∀ other ∈ system.intents, other.intentHash = prepared.intentHash →
      other.Available prepared.intentHash registration now := by
    intro other hother heq
    have hsame : other = row :=
      table.eq_of_key hledger.unique hother hrow (heq.trans havailable.1.symm)
    exact hsame ▸ havailable
  have hcalls : ∀ {other phase}, phase ≠ Call.finished →
      (System.setCall { system with
          intents := table.update
            (fun row : IntentRow => row.Available prepared.intentHash registration now)
            (fun row =>
              { row with
                oauthReferenceHash := some prepared.oauthReferenceHash
                oauthStateHash := some (platform.hashPublicRegistrationValue oauthState) })
            system.intents } call .finished).calls other = some phase →
        other ≠ call ∧ system.calls other = some phase := by
    intro other phase hphase hfound
    rcases setCall_calls hfound with ⟨-, heq⟩ | hfound
    · exact absurd heq hphase
    · exact hfound
  refine ⟨?_, ?_, ?_, ?_, ?_, ?_, ?_, ?_, ?_, ?_, ?_⟩
  · have hkeys : (table.update
        (fun row : IntentRow => row.Available prepared.intentHash registration now)
        (fun row =>
          { row with
            oauthReferenceHash := some prepared.oauthReferenceHash
            oauthStateHash := some (platform.hashPublicRegistrationValue oauthState) })
        system.intents).map IntentRow.intentHash = system.intents.map IntentRow.intentHash := by
      apply table.map_update
      intro row _ _
      rfl
    exact hkeys ▸ hledger.unique
  · intro other hmem
    rcases table.mem_update.mp hmem with ⟨old, hold, -, rfl⟩ | ⟨hold, -⟩
    · exact hledger.generated old hold
    · exact hledger.generated other hold
  · intro intentHash hrecorded
    rw [hboundIntents, hclaims] at hrecorded
    rcases hrecorded with (hrecorded | rfl) | hrecorded
    · exact hledger.recorded intentHash (.inl hrecorded)
    · rw [← havailable.1]
      exact hledger.generated row hrow
    · exact hledger.recorded intentHash (.inr hrecorded)
  · intro other hmem
    rcases table.mem_update.mp hmem with ⟨old, hold, -, rfl⟩ | ⟨hold, -⟩
    · exact (hledger.issued old hold).snoc
    · exact (hledger.issued other hold).snoc
  · intro other hmem hnone
    rcases table.mem_update.mp hmem with ⟨old, hold, -, rfl⟩ | ⟨hold, hnot⟩
    · cases hnone
    · rw [hboundIntents, not_or]
      exact ⟨hledger.unbound other hold hnone, fun heq => hnot (hother other hold heq)⟩
  · intro other hmem referenceHash hreference
    rcases table.mem_update.mp hmem with ⟨old, hold, hmatch, rfl⟩ | ⟨hold, -⟩
    · rw [Option.mem_def, Option.some.injEq] at hreference
      refine ⟨prepared.oauthReference, oauthState, ?_, hreference ▸ hhash, rfl⟩
      rw [hmatch.1]
      exact List.mem_append_right _ List.mem_cons_self
    · obtain ⟨reference, state, hbound, hrest⟩ := hledger.bound other hold referenceHash hreference
      exact ⟨reference, state, List.mem_append_left _ hbound, hrest⟩
  · rw [hclaims]
    intro other hmem hnone
    rcases table.mem_update.mp hmem with ⟨old, hold, -, rfl⟩ | ⟨hold, -⟩
    · exact hledger.unclaimed old hold hnone
    · exact hledger.unclaimed other hold hnone
  · intro reference hmem
    rcases (hreferences reference).mp hmem with hmem | rfl
    · exact hledger.boundReference reference hmem
    · exact hgenerated
  · intro other otherConfig otherPrepared hfound
    obtain ⟨hne, hfound⟩ := hcalls (by simp) hfound
    obtain ⟨hmem, hrest, hunbound⟩ := hledger.prepared other otherConfig otherPrepared hfound
    refine ⟨hmem, hrest, ?_⟩
    rw [hreferences, not_or]
    exact ⟨hunbound, fun heq => hne (hledger.distinct other call _ _ _ _ hfound hcall heq)⟩
  · intro left right _ _ first second hleft hright heq
    exact hledger.distinct left right _ _ first second (hcalls (by simp) hleft).2
      (hcalls (by simp) hright).2 heq
  · intro other otherConfig input legalAcceptance hfound hmode
    obtain ⟨binding, intent, time, hmem⟩ :=
      hledger.authorized other otherConfig input legalAcceptance (hcalls (by simp) hfound).2 hmode
    exact ⟨binding, intent, time, List.mem_append_left _ hmem⟩

/-- A claim: the claimable row is the only one of its intent, and is consumed. -/
theorem Ledger.step_claimed {past : List Event} {system : System} {call : Nat} {config : RuntimeConfig}
    {input : RegistrationInput} {legalAcceptance : Option ClaimedRegistrationIntent}
    {registration : PublicRegistrationConfig} {binding : PublicRegistrationOAuthBinding}
    {intent : IntentRow} {now : Int} (hledger : Ledger platform past system)
    (hintent : intent ∈ system.intents)
    (hclaimable : intent.Claimable platform binding registration now) :
    Ledger platform (past ++ [.claimed call config binding intent now])
      ({ system with
          intents := table.update
            (fun row : IntentRow => row.Claimable platform binding registration now)
            (fun row => { row with consumedAt := some now }) system.intents }.setCall call
        (.claimed config input legalAcceptance)) := by
  have hboundIntents : (past ++ [Event.claimed call config binding intent now]).filterMap
      Event.boundIntent? = past.filterMap Event.boundIntent? := by
    simp [Event.boundIntent?]
  have hreferences : (past ++ [Event.claimed call config binding intent now]).filterMap
      Event.boundReference? = past.filterMap Event.boundReference? := by
    simp [Event.boundReference?]
  have hclaims : ∀ intentHash, intentHash ∈ (past ++ [Event.claimed call config binding intent
      now]).filterMap Event.claimedIntent? ↔
        intentHash ∈ past.filterMap Event.claimedIntent? ∨ intentHash = intent.intentHash := by
    intro intentHash
    rw [List.filterMap_append, List.mem_append]
    exact or_congr_right List.mem_singleton
  have hprepared : ∀ {other otherConfig prepared},
      (System.setCall { system with
          intents := table.update
            (fun row : IntentRow => row.Claimable platform binding registration now)
            (fun row => { row with consumedAt := some now }) system.intents } call
        (.claimed config input legalAcceptance)).calls other = some (.prepared otherConfig prepared) →
        system.calls other = some (.prepared otherConfig prepared) := by
    intro other otherConfig prepared hfound
    rcases setCall_calls hfound with ⟨-, heq⟩ | ⟨-, hfound⟩
    · cases heq
    · exact hfound
  refine ⟨?_, ?_, ?_, ?_, ?_, ?_, ?_, ?_, ?_, ?_, ?_⟩
  · have hkeys : (table.update
        (fun row : IntentRow => row.Claimable platform binding registration now)
        (fun row => { row with consumedAt := some now })
        system.intents).map IntentRow.intentHash = system.intents.map IntentRow.intentHash := by
      apply table.map_update
      intro row _ _
      rfl
    exact hkeys ▸ hledger.unique
  · intro other hmem
    rcases table.mem_update.mp hmem with ⟨old, hold, -, rfl⟩ | ⟨hold, -⟩
    · exact hledger.generated old hold
    · exact hledger.generated other hold
  · intro intentHash hrecorded
    rw [hboundIntents, hclaims] at hrecorded
    rcases hrecorded with hrecorded | hrecorded | rfl
    · exact hledger.recorded intentHash (.inl hrecorded)
    · exact hledger.recorded intentHash (.inr hrecorded)
    · exact hledger.generated intent hintent
  · intro other hmem
    rcases table.mem_update.mp hmem with ⟨old, hold, -, rfl⟩ | ⟨hold, -⟩
    · exact (hledger.issued old hold).snoc
    · exact (hledger.issued other hold).snoc
  · rw [hboundIntents]
    intro other hmem hnone
    rcases table.mem_update.mp hmem with ⟨old, hold, -, rfl⟩ | ⟨hold, -⟩
    · exact hledger.unbound old hold hnone
    · exact hledger.unbound other hold hnone
  · intro other hmem referenceHash hreference
    rcases table.mem_update.mp hmem with ⟨old, hold, -, rfl⟩ | ⟨hold, -⟩
    · obtain ⟨reference, state, hbound, hrest⟩ := hledger.bound old hold referenceHash hreference
      exact ⟨reference, state, List.mem_append_left _ hbound, hrest⟩
    · obtain ⟨reference, state, hbound, hrest⟩ := hledger.bound other hold referenceHash hreference
      exact ⟨reference, state, List.mem_append_left _ hbound, hrest⟩
  · intro other hmem hnone
    rcases table.mem_update.mp hmem with ⟨old, hold, -, rfl⟩ | ⟨hold, hnot⟩
    · cases hnone
    · rw [hclaims, not_or]
      refine ⟨hledger.unclaimed other hold hnone, ?_⟩
      intro heq
      have hsame : other = intent := table.eq_of_key hledger.unique hold hintent heq
      exact hnot (hsame ▸ hclaimable)
  · rw [hreferences]
    exact hledger.boundReference
  · rw [hreferences]
    intro other otherConfig prepared hfound
    exact hledger.prepared other otherConfig prepared (hprepared hfound)
  · intro left right _ _ first second hleft hright heq
    exact hledger.distinct left right _ _ first second (hprepared hleft) (hprepared hright) heq
  · intro other otherConfig otherInput otherAcceptance hfound hmode
    rcases setCall_calls hfound with ⟨rfl, heq⟩ | ⟨-, hfound⟩
    · cases heq
      exact ⟨binding, intent, now, List.mem_append_right _ List.mem_cons_self⟩
    · obtain ⟨pair, row, time, hmem⟩ :=
        hledger.authorized other otherConfig otherInput otherAcceptance hfound hmode
      exact ⟨pair, row, time, List.mem_append_left _ hmem⟩

/-- The knowledge of the tables and the calls survives every step. -/
theorem Ledger.step {past : List Event} {system next : System} {event : Event}
    (hledger : Ledger platform past system) (hstep : Step platform system event next) :
    Ledger platform (past ++ [event]) next := by
  cases step_moves hstep with
  | @issued config payload intent intentId now intents hfresh hverified hhash hunbound hunconsumed hintents
      hunique =>
    have hnew : ∀ intentHash, (∃ id ∈ system.generated,
        intentHash = platform.hashPublicRegistrationValue id) → intentHash ≠ intent.intentHash := by
      rintro intentHash ⟨id, hid, rfl⟩ heq
      exact hfresh (platform.hash_injective (heq.trans hhash) ▸ hid)
    have hkept : Ledger platform (past ++ [.issued intent payload config])
        { system with
          intents := table.delete
            (fun row : IntentRow => row.expiresAt ≤ now ∨ row.consumedAt ≠ none) system.intents
          generated := intentId :: system.generated } :=
      hledger.step_aside none List.filter_sublist (List.subset_cons_self _ _) (fun _ _ _ h => .inl h)
        (fun _ _ _ _ h => .inl h) rfl rfl rfl
    subst hintents
    refine hkept.insert List.mem_cons_self hhash hunique.1 ⟨?_, ?_⟩ hunbound
      ⟨intent, payload, config, List.mem_append_right _ List.mem_cons_self, hverified, rfl, rfl, rfl, rfl⟩
    all_goals
      intro hmem
      rw [List.filterMap_append, List.mem_append] at hmem
      rcases hmem with hmem | hmem
    · exact hnew _ (hledger.recorded _ (.inl hmem)) rfl
    · exact absurd hmem List.not_mem_nil
    · exact hnew _ (hledger.recorded _ (.inr hmem)) rfl
    · exact absurd hmem List.not_mem_nil
  | @prepared call config prepared hfresh hhash =>
    refine hledger.step_aside (some call) (List.Sublist.refl _) (List.subset_cons_self _ _) ?_ ?_ rfl rfl rfl
    · intro other otherConfig otherPrepared hfound
      rcases setCall_calls hfound with ⟨rfl, heq⟩ | ⟨-, hfound⟩
      · cases heq
        exact .inr ⟨rfl, hfresh, List.mem_cons_self, hhash⟩
      · exact .inl hfound
    · intro other otherConfig input legalAcceptance hfound
      rcases setCall_calls hfound with ⟨-, heq⟩ | ⟨-, hfound⟩
      · cases heq
      · exact .inl hfound
  | bound hcall hrow havailable => exact hledger.step_bound hcall hrow havailable
  | claimed hconfig hintent hclaimable => exact hledger.step_claimed hintent hclaimable
  | @authorized call config input legalAcceptance hmode =>
    refine hledger.step_aside none (List.Sublist.refl _) (List.Subset.refl _) ?_ ?_ rfl rfl rfl
    · intro other otherConfig prepared hfound
      rcases setCall_calls hfound with ⟨-, heq⟩ | ⟨-, hfound⟩
      · cases heq
      · exact .inl hfound
    · intro other otherConfig otherInput otherAcceptance hfound
      rcases setCall_calls hfound with ⟨-, heq⟩ | ⟨-, hfound⟩
      · cases heq
        exact .inr hmode
      · exact .inl hfound
  | @granted call config input legalAcceptance invitation grant email now hcall =>
    refine hledger.step_aside none (List.Sublist.refl _) (List.Subset.refl _) ?_ ?_ rfl rfl rfl
    · intro other otherConfig prepared hfound
      rcases setCall_calls hfound with ⟨-, heq⟩ | ⟨-, hfound⟩
      · cases heq
      · exact .inl hfound
    · intro other otherConfig otherInput otherAcceptance hfound
      rcases setCall_calls hfound with ⟨-, heq⟩ | ⟨-, hfound⟩
      · cases heq
      · exact .inl hfound
  | other hintents hgenerated hprepared hclaimed hevent =>
    obtain ⟨hbound, hreference, hclaim⟩ := hevent.keys
    exact hledger.step_aside none (hintents ▸ List.Sublist.refl _) hgenerated
      (fun call config prepared h => .inl (hprepared call config prepared h))
      (fun call config input acceptance h => .inl (hclaimed call config input acceptance h)) hbound
      hreference hclaim

theorem ledger_of_history {past : List Event} {system : System} (hhistory : History platform past system) :
    Ledger platform past system :=
  Trace.invariant Ledger.start Ledger.step hhistory

/-- What the events before a claim, and before a grant in public mode, must be. -/
def Event.Founded (before : List Event) : Event → Prop
  | .claimed _ config binding intent now =>
    (∃ registration, config.publicRegistration = some registration ∧
        intent.termsVersion = registration.termsVersion ∧
        intent.privacyVersion = registration.privacyVersion) ∧
      now < intent.expiresAt ∧ IssuedVerified before intent ∧
      .bound intent.intentHash binding.oauthReference binding.oauthState ∈ before
  | .granted call config _ _ _ _ => config.registrationMode = .«public» →
      ∃ binding intent now, .claimed call config binding intent now ∈ before
  | _ => True

theorem Ledger.founded {past : List Event} {system next : System} {event : Event}
    (hledger : Ledger platform past system) (hstep : Step platform system event next) :
    event.Founded past := by
  cases step_moves hstep with
  | issued => trivial
  | prepared => trivial
  | bound => trivial
  | authorized => trivial
  | claimed hconfig hintent hclaimable =>
    obtain ⟨hreference, hstate, hterms, hprivacy, -, hexpiry⟩ := hclaimable
    refine ⟨⟨_, hconfig, hterms, hprivacy⟩, hexpiry, hledger.issued _ hintent, ?_⟩
    obtain ⟨reference, state, hbound, hhash, hstateHash⟩ := hledger.bound _ hintent _ hreference
    rw [hstate, Option.some.injEq] at hstateHash
    rw [platform.hash_injective hhash, platform.hash_injective hstateHash]
    exact hbound
  | granted hcall => exact hledger.authorized _ _ _ _ hcall
  | other hintents hgenerated hprepared hclaimed hevent =>
    cases event with
    | claimed => exact absurd hevent id
    | granted => exact absurd hevent id
    | _ => trivial

/-- A binding is of an intent and a reference that were not bound before. -/
theorem Ledger.bound_fresh {past : List Event} {system next : System} {event : Event}
    (hledger : Ledger platform past system) (hstep : Step platform system event next) :
    (∀ intentHash, event.boundIntent? = some intentHash →
        intentHash ∉ past.filterMap Event.boundIntent?) ∧
      ∀ oauthReference, event.boundReference? = some oauthReference →
        oauthReference ∉ past.filterMap Event.boundReference? := by
  cases step_moves hstep with
  | issued => exact ⟨nofun, nofun⟩
  | prepared => exact ⟨nofun, nofun⟩
  | claimed => exact ⟨nofun, nofun⟩
  | authorized => exact ⟨nofun, nofun⟩
  | granted => exact ⟨nofun, nofun⟩
  | @bound call config prepared registration oauthState now row hcall hrow havailable =>
    constructor
    · rintro intentHash ⟨⟩
      obtain ⟨hhash, -, -, hunbound, -⟩ := havailable
      exact hhash ▸ hledger.unbound row hrow hunbound
    · rintro oauthReference ⟨⟩
      exact (hledger.prepared call config prepared hcall).2.2
  | other hintents hgenerated hprepared hclaimed hevent =>
    obtain ⟨hbound, hreference, -⟩ := hevent.keys
    rw [hbound, hreference]
    exact ⟨nofun, nofun⟩

/-- A claim is of an intent that was not claimed before. -/
theorem Ledger.claimed_fresh {past : List Event} {system next : System} {event : Event}
    (hledger : Ledger platform past system) (hstep : Step platform system event next) :
    ∀ intentHash, event.claimedIntent? = some intentHash →
      intentHash ∉ past.filterMap Event.claimedIntent? := by
  intro intentHash hevent
  cases step_moves hstep with
  | issued => cases hevent
  | prepared => cases hevent
  | bound => cases hevent
  | authorized => cases hevent
  | granted => cases hevent
  | claimed hconfig hintent hclaimable =>
    cases hevent
    obtain ⟨-, -, -, -, hunconsumed, -⟩ := hclaimable
    exact hledger.unclaimed _ hintent hunconsumed
  | other hintents hgenerated hprepared hclaimed haside =>
    obtain ⟨-, -, hclaim⟩ := haside.keys
    rw [hclaim] at hevent
    cases hevent

/-- The prerequisites of public registration are used once: claims and public grants are
founded, an intent is bound and claimed at most once, and a claim with the reference of
a binding has the intent and the state of that binding. -/
theorem publicRegistration_single_use {past : List Event} {system : System}
    (hhistory : History platform past system) :
    Each (fun before event => event.Founded before) past ∧
      (past.filterMap Event.boundIntent?).Nodup ∧ (past.filterMap Event.claimedIntent?).Nodup ∧
      ∀ call config binding intent now intentHash oauthState,
        .claimed call config binding intent now ∈ past →
          .bound intentHash binding.oauthReference oauthState ∈ past →
            intentHash = intent.intentHash ∧ oauthState = binding.oauthState := by
  have hfounded : Each (fun before event => event.Founded before) past :=
    Trace.each ledger_of_history Ledger.founded hhistory
  have hintents : (past.filterMap Event.boundIntent?).Nodup :=
    nodup_of_each (Trace.each ledger_of_history (fun h hstep => (h.bound_fresh hstep).1) hhistory)
  have hreferences : (past.filterMap Event.boundReference?).Nodup :=
    nodup_of_each (Trace.each ledger_of_history (fun h hstep => (h.bound_fresh hstep).2) hhistory)
  have hclaims : (past.filterMap Event.claimedIntent?).Nodup :=
    nodup_of_each (Trace.each ledger_of_history Ledger.claimed_fresh hhistory)
  refine ⟨hfounded, hintents, hclaims, ?_⟩
  intro call config binding intent now intentHash oauthState hclaim hbound
  obtain ⟨before, after, rfl⟩ := List.append_of_mem hclaim
  obtain ⟨-, -, -, hown⟩ := hfounded before _ after rfl
  have hsame := eq_of_key hreferences hbound (List.mem_append_left _ hown) rfl rfl
  rw [Event.bound.injEq] at hsame
  exact ⟨hsame.1, hsame.2.2⟩

def publicConfig : RuntimeConfig :=
  { authHostname := Text.of "auth.example"
    bootstrapAdminEmail := Text.of "boot@auth.example"
    publicRegistration := some { privacyVersion := Text.of "p1", termsVersion := Text.of "t1" }
    registrationMode := .«public» }

/-- One visitor who accepts the texts, starts a sign-in with Google and returns from it. -/
def visit : List Action :=
  let intentId := List.replicate 43 (Text.unit 'i')
  let oauthReference := List.replicate 43 (Text.unit 'r')
  let oauthState := List.replicate 32 (Text.unit 's')
  [ .issue publicConfig
      { acceptPrivacy := true, acceptTerms := true, privacyVersion := Text.of "p1"
        termsVersion := Text.of "t1", turnstileToken := Text.of "token" } (some true)
      (some { ok := true, success := true, hostname := some (Text.of "auth.example")
              action := some TURNSTILE_REGISTRATION_ACTION }) intentId 0,
    .prepare 0 publicConfig intentId oauthReference 10,
    .bind 0 oauthState 20,
    .authorize 1 publicConfig
      { email := Text.of "new@mail.example", emailVerified := true, providerId := some (Text.of "google")
        registrationBinding := some { oauthReference, oauthState } } true 30,
    .grant 1 40 ]

theorem publicRegistration_single_use_visit :
    let past := (replay (perform Platform.plain) System.empty visit).1
    (past.filterMap Event.claimedIntent?).length = 1 ∧
      Each (fun before event => event.Founded before) past ∧
      (past.filterMap Event.boundIntent?).Nodup ∧ (past.filterMap Event.claimedIntent?).Nodup :=
  have hsingle := publicRegistration_single_use (replay_trace System.empty_start visit)
  ⟨by decide, hsingle.1, hsingle.2.1, hsingle.2.2.1⟩

end pgid.registration
