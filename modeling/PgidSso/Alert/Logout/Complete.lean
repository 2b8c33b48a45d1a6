import PgidSso.Alert.Logout.Accepted

open checked

namespace pgid.alert.logout

section dimensions

/-- The clients that the rows of the source name. -/
def rowClients (source : LogoutSource) (starts : Windowed Timestamp) (asOf : Timestamp) : List Text :=
  (ALERT_LOGOUT_CURRENT_CLIENT_QUERY source asOf).map Prod.fst ++
    (ALERT_LOGOUT_DELIVERY_CLIENT_QUERY source starts asOf).map Prod.fst ++
    (ALERT_LOGOUT_LEASE_CLIENT_QUERY source starts asOf).map Prod.fst

/-- The text of the reference of a client. -/
def clientReference (sign : Sign) (key : String) (rawClient : Text) : String :=
  sign key (Text.encode (Text.of "pgid-alert-v1\x00client_hmac\x00" ++ rawClient))

/-- The references that the source has a dimension for: those of the clients of its rows, and
those that are tracked. -/
def dimensionReferences (sign : Sign) (key : String) (source : LogoutSource)
    (environment : AlertLogoutSourceEnvironment) (starts : Windowed Timestamp) (asOf : Timestamp) : List String :=
  (rowClients source starts asOf).map (clientReference sign key) ++
    (ALERT_LOGOUT_TRACKED_DIMENSIONS_QUERY source environment).map (·.value)

/-- The dimensions are within the limits of the reader. A code of SHA-256 is 32 bytes, and no two
clients of the rows share one. -/
structure WithinDimensions (sign : Sign) (key : String) (source : LogoutSource)
    (environment : AlertLogoutSourceEnvironment) (starts : Windowed Timestamp) (asOf : Timestamp) : Prop where
  tracked : (ALERT_LOGOUT_TRACKED_DIMENSIONS_QUERY source environment).length ≤ MAX_DIMENSION_GROUPS
  stored : ∀ row ∈ ALERT_LOGOUT_TRACKED_DIMENSIONS_QUERY source environment, isHashedAlertReference row = true
  canonical : ∀ rawClient ∈ rowClients source starts asOf, isCanonicalBase64Url32 (clientReference sign key rawClient)
  injective : ∀ rawClient ∈ rowClients source starts asOf, ∀ other ∈ rowClients source starts asOf,
    clientReference sign key rawClient = clientReference sign key other → rawClient = other
  dimensions : (dimensionReferences sign key source environment starts asOf).dedup.length ≤ MAX_DIMENSION_GROUPS

end dimensions

section observed

variable {sign : Sign} {key : String} {source : LogoutSource} {environment : AlertLogoutSourceEnvironment}
  {starts : Windowed Timestamp} {asOf : Timestamp} {projections : ClientProjections}

theorem rawClients_nodup (projections : ClientProjections) : projections.rawClients.Nodup :=
  Dictionary.nodup_eraseDups _

theorem mem_rawClients {rawClient : Text} : rawClient ∈ projections.rawClients ↔
    rawClient ∈ projections.currentByClient.keys ∨ rawClient ∈ projections.deliveryByClient.keys ∨
      rawClient ∈ projections.leaseByClient.keys := by
  rw [ClientProjections.rawClients, List.mem_eraseDups, List.mem_append, List.mem_append, or_assoc]

/-- The clients of accepted maps are those of the rows. -/
theorem mem_rawClients_iff (hprojections : clientProjections source starts asOf = .ok (some projections))
    {rawClient : Text} : rawClient ∈ projections.rawClients ↔ rawClient ∈ rowClients source starts asOf := by
  obtain ⟨hcurrent, hdelivery, hlease⟩ := clientProjections_eq_some hprojections
  rw [mem_rawClients, keys_of_parseClientRows hcurrent, keys_of_parseClientRows hdelivery,
    keys_of_parseClientRows hlease, rowClients, List.mem_append, List.mem_append, or_assoc]

theorem rawClients_identity (hprojections : clientProjections source starts asOf = .ok (some projections))
    {rawClient : Text} (hclient : rawClient ∈ projections.rawClients) :
    1 ≤ rawClient.length ∧ rawClient.length ≤ 512 := by
  obtain ⟨hcurrent, hdelivery, hlease⟩ := clientProjections_eq_some hprojections
  obtain hkey | hkey | hkey := mem_rawClients.mp hclient
  · exact identity_of_keys hcurrent hkey
  · exact identity_of_keys hdelivery hkey
  · exact identity_of_keys hlease hkey

theorem emptyCurrent_valid : CurrentValid emptyCurrent where
  dead := by decide
  unresolved := by decide
  age age hage := by cases hage
  within := by decide
  agree := by decide

theorem clientDimension_accepted {reference : HashedAlertReference}
    (hreference : reference.keyVersion = 1 ∧ isCanonicalBase64Url32 reference.value) :
    (AlertDimension.hashed .clientHmac reference).Accepted LOGOUT_DIMENSIONS := by
  have hkind : AlertDimensionKind.hashed .clientHmac ∈ LOGOUT_DIMENSIONS := by decide
  refine ⟨hkind, ?_⟩
  rintro kind own ⟨rfl, rfl⟩
  exact hreference

/-- The figures of a client make up an observation, whichever of the maps it is in. -/
theorem clientObservation_of_projections
    (hprojections : clientProjections source starts asOf = .ok (some projections)) (rawClient : Text)
    {reference : HashedAlertReference}
    (hreference : reference.keyVersion = 1 ∧ isCanonicalBase64Url32 reference.value) :
    ∃ observation, clientObservation asOf projections rawClient reference = .ok observation := by
  obtain ⟨hcurrent, hdelivery, hlease⟩ := clientProjections_eq_some hprojections
  have hcurrentValid : CurrentValid ((projections.currentByClient.get rawClient).getD emptyCurrent) := by
    cases hget : projections.currentByClient.get rawClient with
    | none => exact emptyCurrent_valid
    | some current =>
      obtain ⟨row, hrow⟩ := row_of_get hcurrent hget
      exact parseCurrentSnapshot_valid (nonempty_eq_some hrow).1
  let delivery := (projections.deliveryByClient.get rawClient).getD emptyDeliveryWindows
  have hdeliveryValid : (nondecreasing delivery.eligible ∧ nondecreasing delivery.unresolved ∧
      ∀ window, delivery.unresolved.at window ≤ delivery.eligible.at window) ∧
      ∀ window, (0 ≤ delivery.eligible.at window ∧ delivery.eligible.at window ≤ MAX_RATIO_COUNT) ∧
        0 ≤ delivery.unresolved.at window ∧ delivery.unresolved.at window ≤ MAX_RATIO_COUNT := by
    cases hget : projections.deliveryByClient.get rawClient with
    | none =>
      have hempty : delivery = emptyDeliveryWindows := by
        unfold delivery
        rw [hget, Option.getD_none]
      rw [hempty]
      refine ⟨⟨by decide, by decide, ?_⟩, ?_⟩
      · intro window
        cases window <;> decide
      · intro window
        cases window <;> decide
    | some parsed =>
      have hparsed : delivery = parsed := by
        unfold delivery
        rw [hget, Option.getD_some]
      obtain ⟨row, hrow⟩ := row_of_get hdelivery hget
      have hparse := (nonempty_eq_some hrow).1
      rw [hparsed]
      refine ⟨parseDeliveryWindows_nested hparse, ?_⟩
      intro window
      obtain ⟨heligible, hunresolved, heligibleLe, hunresolvedLe⟩ := parseDeliveryWindows_eq_some hparse window
      exact ⟨⟨by omega, heligibleLe⟩, by omega, hunresolvedLe⟩
  let lease := (projections.leaseByClient.get rawClient).getD emptyLeaseWindows
  have hleaseValid : nondecreasing lease ∧ ∀ window, 0 ≤ lease.at window ∧ lease.at window ≤ MAX_EVIDENCE_COUNT := by
    cases hget : projections.leaseByClient.get rawClient with
    | none =>
      have hempty : lease = emptyLeaseWindows := by
        unfold lease
        rw [hget, Option.getD_none]
      rw [hempty]
      refine ⟨by decide, ?_⟩
      intro window
      cases window <;> decide
    | some parsed =>
      have hparsed : lease = parsed := by
        unfold lease
        rw [hget, Option.getD_some]
      obtain ⟨row, hrow⟩ := row_of_get hlease hget
      have hparse := (nonempty_eq_some hrow).1
      rw [hparsed]
      refine ⟨parseLeaseWindows_nested hparse, ?_⟩
      intro window
      obtain ⟨hcount, hle⟩ := parseLeaseWindows_eq_some hparse window
      exact ⟨by omega, hle⟩
  obtain ⟨⟨heligible, hunresolved, hwithin⟩, hcounts⟩ := hdeliveryValid
  refine buildObservation_of_valid asOf (clientDimension_accepted hreference) hcurrentValid ?_ ⟨heligible, hleaseValid.1, hunresolved⟩
  exact fun window => ⟨(hcounts window).1, hleaseValid.2 window, (hcounts window).2, hwithin window⟩

theorem deriveAlertReferenceV1_of_identity (hkey : decodeHmacKey key = .ok ()) {rawClient : Text}
    (hidentity : 1 ≤ rawClient.length ∧ rawClient.length ≤ 512) :
    deriveAlertReferenceV1 sign key rawClient = .ok { keyVersion := 1, value := clientReference sign key rawClient } := by
  rw [deriveAlertReferenceV1, throwIf_bind_of_not (by omega), hkey, ok_bind]
  rfl

/-- The loop over the clients ends: no two of them have one reference. -/
theorem observeClients_returns (hkey : decodeHmacKey key = .ok ())
    (hprojections : clientProjections source starts asOf = .ok (some projections))
    (hdimensions : WithinDimensions sign key source environment starts asOf) {rawClients : List Text}
    (hclients : ∀ rawClient ∈ rawClients, rawClient ∈ projections.rawClients)
    {rawByReference : Dictionary String Text} {before : Dictionary String LogoutDeliveryAlertObservation}
    (hknown : ∀ reference rawClient, rawByReference.get reference = some rawClient →
      rawClient ∈ projections.rawClients ∧ reference = clientReference sign key rawClient)
    (hbefore : ∀ reference ∈ before.keys, reference ∈ dimensionReferences sign key source environment starts asOf) :
    ∃ observed, observeClients sign key asOf projections rawClients rawByReference before = .ok observed ∧
      ∀ reference ∈ observed.keys, reference ∈ dimensionReferences sign key source environment starts asOf := by
  induction rawClients generalizing rawByReference before with
  | nil => exact ⟨before, rfl, hbefore⟩
  | cons rawClient rawClients ih =>
    obtain ⟨hclient, hclients⟩ := List.forall_mem_cons.mp hclients
    have hrow := (mem_rawClients_iff hprojections).mp hclient
    have hderive := @deriveAlertReferenceV1_of_identity sign key hkey rawClient (rawClients_identity hprojections hclient)
    obtain ⟨observation, hobservation⟩ := @clientObservation_of_projections _ _ _ _ hprojections rawClient
      { keyVersion := 1, value := clientReference sign key rawClient } ⟨rfl, hdimensions.canonical rawClient hrow⟩
    have hcollision : ¬ ∃ existingRaw ∈ rawByReference.get (clientReference sign key rawClient),
        existingRaw ≠ rawClient := by
      rintro ⟨existingRaw, hexisting, hne⟩
      obtain ⟨hmem, hsame⟩ := hknown _ existingRaw hexisting
      exact hne (hdimensions.injective existingRaw ((mem_rawClients_iff hprojections).mp hmem) rawClient hrow hsame.symm)
    have hreference : clientReference sign key rawClient ∈
        dimensionReferences sign key source environment starts asOf :=
      List.mem_append_left _ (List.mem_map_of_mem hrow)
    rw [observeClients, hderive]
    change ∃ observed, (throwIf _ _ >>= fun _ => _) = _ ∧ _
    rw [throwIf_bind_of_not hcollision, hobservation, ok_bind]
    apply ih hclients
    · intro reference other hget
      rw [Dictionary.get_eq_some_iff, Dictionary.mem_entries_set_iff] at hget
      obtain hnew | ⟨hold, -⟩ := hget
      · cases hnew
        exact ⟨hclient, rfl⟩
      · exact hknown reference other (Dictionary.get_eq_some_iff.mpr hold)
    · intro reference hmem
      obtain rfl | hold := Dictionary.mem_keys_set_iff.mp hmem
      · exact hreference
      · exact hbefore reference hold

/-- The loop over the tracked references ends, whichever of them have been observed. -/
theorem observeTracked_returns {allowed references : List String}
    (hcanonical : ∀ reference ∈ references, isCanonicalBase64Url32 reference ∧ reference ∈ allowed)
    {before : Dictionary String LogoutDeliveryAlertObservation} (hbefore : ∀ reference ∈ before.keys, reference ∈ allowed) :
    ∃ observed, observeTracked asOf references before = .ok observed ∧
      ∀ reference ∈ observed.keys, reference ∈ allowed := by
  induction references generalizing before with
  | nil => exact ⟨before, rfl, hbefore⟩
  | cons reference references ih =>
    obtain ⟨⟨hreference, hallowed⟩, hcanonical⟩ := List.forall_mem_cons.mp hcanonical
    rw [observeTracked]
    split
    · exact ih hcanonical hbefore
    · have hmetrics : ∀ window, MetricsValid (windowMetrics emptyDeliveryWindows emptyLeaseWindows window) := by
        intro window
        cases window <;> exact ⟨by decide, by decide, by decide, by decide⟩
      obtain ⟨observation, hbuild⟩ := @buildObservation_of_valid
        (.hashed .clientHmac { keyVersion := 1, value := reference }) _ _ _ asOf
        (clientDimension_accepted ⟨rfl, hreference⟩) emptyCurrent_valid hmetrics ⟨by decide, by decide, by decide⟩
      rw [hbuild, ok_bind]
      apply ih hcanonical
      intro other hmem
      obtain rfl | hold := Dictionary.mem_keys_set_iff.mp hmem
      · exact hallowed
      · exact hbefore other hold

theorem length_le_of_subset {references allowed : List String} (hnodup : references.Nodup)
    (hsubset : ∀ reference ∈ references, reference ∈ allowed) : references.length ≤ allowed.dedup.length :=
  (List.subperm_of_subset hnodup fun reference hmem => List.mem_dedup.mpr (hsubset reference hmem)).length_le

/-- Within the limits the clients are observed: the check of their figures against the global
ones does not stop the reader. -/
theorem clientOutcome_of_limits {global : LogoutDeliveryAlertObservation} (hwindows : Windows starts asOf)
    (hlimits : WithinLimits source starts asOf)
    (hdimensions : WithinDimensions sign key source environment starts asOf) (hkey : decodeHmacKey key = .ok ())
    (hmatch : ∀ projections, clientProjections source starts asOf = .ok (some projections) →
      projections.matchGlobal global = true) :
    ∃ observations, clientOutcome sign key source environment starts asOf (some global) =
      .ok (.observed observations) := by
  obtain ⟨projections, hprojections⟩ := clientProjections_of_limits hwindows hlimits
  have htracked : parseTrackedReferences (ALERT_LOGOUT_TRACKED_DIMENSIONS_QUERY source environment) =
      .ok (some ((ALERT_LOGOUT_TRACKED_DIMENSIONS_QUERY source environment).map (·.value)).eraseDups) := by
    have hlimit := hdimensions.tracked
    rw [parseTrackedReferences, if_neg (by omega), throwIf_bind_of_not]
    · rfl
    · rintro ⟨row, hrow, hinvalid⟩
      rw [hdimensions.stored row hrow] at hinvalid
      cases hinvalid
  have hinconsistent : ¬ ∃ observation ∈ some global, projections.matchGlobal observation = false := by
    rintro ⟨observation, hsame, hmismatch⟩
    cases hsame
    rw [hmatch projections hprojections] at hmismatch
    cases hmismatch
  have hclients : projections.rawClients.length ≤ MAX_DIMENSION_GROUPS := by
    have hnodup : (projections.rawClients.map (clientReference sign key)).Nodup := by
      refine List.Nodup.map_on ?_ (rawClients_nodup projections)
      intro rawClient hclient other hother hsame
      exact hdimensions.injective rawClient ((mem_rawClients_iff hprojections).mp hclient) other
        ((mem_rawClients_iff hprojections).mp hother) hsame
    have hsubset : ∀ reference ∈ projections.rawClients.map (clientReference sign key),
        reference ∈ dimensionReferences sign key source environment starts asOf := by
      intro reference hmem
      obtain ⟨rawClient, hclient, rfl⟩ := List.mem_map.mp hmem
      exact List.mem_append_left _ (List.mem_map_of_mem ((mem_rawClients_iff hprojections).mp hclient))
    have hle := length_le_of_subset hnodup hsubset
    rw [List.length_map] at hle
    exact hle.trans hdimensions.dimensions
  obtain ⟨first, hobserve, hfirst⟩ := @observeClients_returns sign key source environment starts asOf projections hkey
    hprojections hdimensions projections.rawClients (fun _ hmem => hmem) .empty .empty
    (fun _ _ hget => by cases hget) (fun _ hmem => by cases hmem)
  have hcanonical : ∀ reference ∈ ((ALERT_LOGOUT_TRACKED_DIMENSIONS_QUERY source environment).map
      (·.value)).eraseDups, isCanonicalBase64Url32 reference ∧
        reference ∈ dimensionReferences sign key source environment starts asOf := by
    intro reference hmem
    have hvalue := List.mem_eraseDups.mp hmem
    obtain ⟨row, hrow, rfl⟩ := List.mem_map.mp hvalue
    refine ⟨?_, List.mem_append_right _ hvalue⟩
    obtain ⟨parsed, hparsed⟩ := Option.isSome_iff_exists.mp (hdimensions.stored row hrow)
    cases hread : parseHashedReference row with
    | ok own => exact (parseHashedReference_eq_ok_iff.mp hread).2.1
    | error message =>
      rw [hread] at hparsed
      cases hparsed
  obtain ⟨last, htrackedObserve, hlast⟩ := @observeTracked_returns asOf _ _ hcanonical first hfirst
  have hgroups : ¬ last.entries.length > MAX_DIMENSION_GROUPS := by
    have hle := length_le_of_subset last.keys_nodup hlast
    rw [Dictionary.keys, List.length_map] at hle
    have hlimit := hdimensions.dimensions
    omega
  refine ⟨(last.entries.mergeSort fun left right => decide (left.1 ≤ right.1)).map Prod.snd, ?_⟩
  rw [clientOutcome, htracked, ok_bind, hprojections, ok_bind]
  simp only
  rw [if_neg hinconsistent, if_neg (by omega), hobserve, ok_bind, htrackedObserve, ok_bind, if_neg hgroups]
  rfl

end observed

end pgid.alert.logout
