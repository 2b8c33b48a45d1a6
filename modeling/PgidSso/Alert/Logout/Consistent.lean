import PgidSso.Alert.Logout.Complete

open checked

namespace pgid.alert.logout

section totals

theorem max?_congr {left right : List Int} (hmem : ∀ age, age ∈ left ↔ age ∈ right) : left.max? = right.max? := by
  cases hright : right.max? with
  | none =>
    rw [List.max?_eq_none_iff] at hright ⊢
    subst hright
    rw [List.eq_nil_iff_forall_not_mem]
    intro age hage
    exact List.not_mem_nil ((hmem age).mp hage)
  | some age =>
    rw [List.max?_eq_some_iff] at hright ⊢
    exact ⟨(hmem age).mpr hright.1, fun other hother => hright.2 other ((hmem other).mp hother)⟩

theorem totalCurrent_perm {left right : List LogoutDeliveryCurrentSnapshot} (hperm : left.Perm right) :
    totalCurrent left = totalCurrent right := by
  apply current_ext
  · exact (hperm.map _).sum_eq
  · exact (hperm.map _).sum_eq
  · exact max?_congr fun _ => (hperm.filterMap _).mem_iff

theorem totalWindow_perm {left right : List LogoutDeliveryWindowMetrics} (hperm : left.Perm right) :
    totalWindow left = totalWindow right := by
  rw [totalWindow, totalWindow, (hperm.map _).sum_eq, (hperm.map _).sum_eq, (hperm.map _).sum_eq]

theorem sum_append_zero {T : Type} {values others : List T} {amount : T → Int}
    (hzero : ∀ other ∈ others, amount other = 0) :
    ((values ++ others).map amount).sum = (values.map amount).sum := by
  rw [List.map_append, List.sum_append, List.map_congr_left hzero, List.map_const', List.sum_replicate, nsmul_zero,
    Int.add_zero]

/-- Clients that have nothing add nothing. -/
theorem totalCurrent_append_empty {clients others : List LogoutDeliveryCurrentSnapshot}
    (hempty : ∀ other ∈ others, other = emptyCurrent) : totalCurrent (clients ++ others) = totalCurrent clients := by
  have hage : ∀ other ∈ others, other.oldestUnresolvedAgeSeconds = none := by
    intro other hother
    rw [hempty other hother]
    rfl
  apply current_ext
  · apply sum_append_zero
    intro other hother
    rw [hempty other hother]
    rfl
  · apply sum_append_zero
    intro other hother
    rw [hempty other hother]
    rfl
  · simp only [totalCurrent]
    rw [List.filterMap_append, List.filterMap_eq_nil_iff.mpr hage, List.append_nil]

/-- The metrics of a window without rows. -/
def emptyMetrics : LogoutDeliveryWindowMetrics where
  eligible := 0
  leaseExpired := 0
  unresolved := 0

theorem totalWindow_append_empty {clients others : List LogoutDeliveryWindowMetrics}
    (hempty : ∀ other ∈ others, other = emptyMetrics) : totalWindow (clients ++ others) = totalWindow clients := by
  have hzero : ∀ amount : LogoutDeliveryWindowMetrics → Int, amount emptyMetrics = 0 →
      ∀ other ∈ others, amount other = 0 := by
    intro amount hamount other hother
    rw [hempty other hother, hamount]
  rw [totalWindow, totalWindow, sum_append_zero (hzero _ rfl), sum_append_zero (hzero _ rfl),
    sum_append_zero (hzero _ rfl)]

end totals

section observed

variable {sign : Sign} {key : String} {asOf : Timestamp} {projections : ClientProjections}

/-- The loop adds one observation for each client. -/
theorem observeClients_eq_ok {rawClients : List Text} {rawByReference : Dictionary String Text}
    {before observed : Dictionary String LogoutDeliveryAlertObservation} (hnodup : rawClients.Nodup)
    (hkeys : before.keys = rawByReference.keys) (hfresh : ∀ rawClient ∈ rawClients, rawClient ∉ rawByReference.values)
    (hobserve : observeClients sign key asOf projections rawClients rawByReference before = .ok observed) :
    ∃ clients, observed.values = before.values ++ clients ∧
      List.Forall₂ (fun rawClient client => ∃ reference,
        clientObservation asOf projections rawClient reference = .ok client) rawClients clients := by
  induction rawClients generalizing rawByReference before with
  | nil =>
    rw [observeClients, Except.ok.injEq] at hobserve
    subst hobserve
    exact ⟨[], (List.append_nil _).symm, .nil⟩
  | cons rawClient rawClients ih =>
    obtain ⟨hnew, hnodup⟩ := List.nodup_cons.mp hnodup
    obtain ⟨hclient, hfresh⟩ := List.forall_mem_cons.mp hfresh
    rw [observeClients, bind_eq_ok_iff] at hobserve
    obtain ⟨reference, -, hobserve⟩ := hobserve
    rw [throwIf_bind_eq_ok_iff, bind_eq_ok_iff] at hobserve
    obtain ⟨hcollision, client, hbuild, hobserve⟩ := hobserve
    -- A reference that is known belongs to this client, which has not been seen.
    have hreference : reference.value ∉ rawByReference.keys := by
      rw [← Dictionary.get_eq_none_iff, ← Option.not_isSome_iff_eq_none, Option.isSome_iff_exists]
      rintro ⟨existingRaw, hexisting⟩
      have hsame : existingRaw = rawClient := by
        by_contra hne
        exact hcollision ⟨existingRaw, hexisting, hne⟩
      subst hsame
      exact hclient (Dictionary.mem_values_iff.mpr ⟨_, hexisting⟩)
    have hreferenceBefore : reference.value ∉ before.keys := hkeys ▸ hreference
    have hkeysNext : (before.set reference.value client).keys = (rawByReference.set reference.value rawClient).keys := by
      rw [Dictionary.keys_set_of_not_mem hreferenceBefore, Dictionary.keys_set_of_not_mem hreference, hkeys]
    have hfreshNext : ∀ other ∈ rawClients, other ∉ (rawByReference.set reference.value rawClient).values := by
      intro other hother hmem
      rw [Dictionary.values_set_of_not_mem hreference, List.mem_append, List.mem_singleton] at hmem
      obtain hold | rfl := hmem
      · exact hfresh other hother hold
      · exact hnew hother
    obtain ⟨clients, hvalues, hclients⟩ := ih hnodup hkeysNext hfreshNext hobserve
    refine ⟨client :: clients, ?_, .cons ⟨reference, hbuild⟩ hclients⟩
    rw [hvalues, Dictionary.values_set_of_not_mem hreferenceBefore, List.append_assoc, List.singleton_append]

/-- The loop over the tracked references adds observations of nothing. -/
theorem observeTracked_eq_ok {references : List String}
    {before observed : Dictionary String LogoutDeliveryAlertObservation}
    (hobserve : observeTracked asOf references before = .ok observed) :
    ∃ others, observed.values = before.values ++ others ∧
      ∀ other ∈ others, other.current = emptyCurrent ∧ (∀ window, other.windows.at window = emptyMetrics) ∧
        other.dimension.kind = .hashed .clientHmac := by
  induction references generalizing before with
  | nil =>
    rw [observeTracked, Except.ok.injEq] at hobserve
    subst hobserve
    exact ⟨[], (List.append_nil _).symm, fun _ hother => by cases hother⟩
  | cons reference references ih =>
    rw [observeTracked] at hobserve
    split at hobserve
    · exact ih hobserve
    · rename_i hfresh
      rw [bind_eq_ok_iff] at hobserve
      obtain ⟨first, hbuild, hobserve⟩ := hobserve
      obtain ⟨others, hvalues, hothers⟩ := ih hobserve
      refine ⟨first :: others, ?_, ?_⟩
      · rw [hvalues, Dictionary.values_set_of_not_mem hfresh, List.append_assoc, List.singleton_append]
      · rw [List.forall_mem_cons]
        refine ⟨?_, hothers⟩
        obtain ⟨-, -, -, -, rfl⟩ := buildObservation_eq_ok_iff.mp hbuild
        refine ⟨rfl, ?_, rfl⟩
        intro window
        cases window <;> rfl

/-- The figures of a client's observation are those of its entries. -/
theorem clientObservation_eq_ok {rawClient : Text} {reference : HashedAlertReference}
    {client : LogoutDeliveryAlertObservation}
    (hbuild : clientObservation asOf projections rawClient reference = .ok client) :
    client.current = (projections.currentByClient.get rawClient).getD emptyCurrent ∧
      (∀ window, client.windows.at window =
        windowMetrics ((projections.deliveryByClient.get rawClient).getD emptyDeliveryWindows)
          ((projections.leaseByClient.get rawClient).getD emptyLeaseWindows) window) ∧
      client.dimension.kind = .hashed .clientHmac := by
  obtain ⟨-, -, -, -, rfl⟩ := buildObservation_eq_ok_iff.mp hbuild
  refine ⟨rfl, ?_, rfl⟩
  intro window
  cases window <;> rfl

end observed

section partition

variable {sign : Sign} {key : String} {source : LogoutSource} {environment : AlertLogoutSourceEnvironment}
  {starts : Windowed Timestamp} {asOf : Timestamp} {projections : ClientProjections}

/-- What the client loop leaves: an observation of each client, and those of nothing. -/
structure Observed (asOf : Timestamp) (projections : ClientProjections)
    (observations clients others : List LogoutDeliveryAlertObservation) : Prop where
  perm : observations.Perm (clients ++ others)
  clients : List.Forall₂ (fun rawClient client => ∃ reference,
    clientObservation asOf projections rawClient reference = .ok client) projections.rawClients clients
  others : ∀ other ∈ others, other.current = emptyCurrent ∧ (∀ window, other.windows.at window = emptyMetrics) ∧
    other.dimension.kind = .hashed .clientHmac

theorem clientOutcome_observed {global : Option LogoutDeliveryAlertObservation}
    {observations : List LogoutDeliveryAlertObservation}
    (houtcome : clientOutcome sign key source environment starts asOf global = .ok (.observed observations)) :
    ∃ projections clients others, clientProjections source starts asOf = .ok (some projections) ∧
      Observed asOf projections observations clients others := by
  rw [clientOutcome, bind_eq_ok_iff] at houtcome
  obtain ⟨tracked, -, houtcome⟩ := houtcome
  rw [bind_eq_ok_iff] at houtcome
  obtain ⟨projections, hprojections, houtcome⟩ := houtcome
  cases tracked with
  | none => cases houtcome
  | some tracked =>
    cases projections with
    | none => cases houtcome
    | some projections =>
      simp only at houtcome
      split at houtcome
      · cases houtcome
      · split at houtcome
        · cases houtcome
        · rw [bind_eq_ok_iff] at houtcome
          obtain ⟨first, hclients, houtcome⟩ := houtcome
          rw [bind_eq_ok_iff] at houtcome
          obtain ⟨last, htracked, houtcome⟩ := houtcome
          split at houtcome
          · cases houtcome
          · rw [pure_eq_ok_iff] at houtcome
            cases houtcome
            obtain ⟨clients, hvalues, hobserved⟩ := observeClients_eq_ok (rawClients_nodup projections) rfl
              (fun _ _ => List.not_mem_nil) hclients
            obtain ⟨others, hall, hothers⟩ := observeTracked_eq_ok htracked
            refine ⟨projections, clients, others, hprojections, ?_, hobserved, hothers⟩
            have hsame : last.values = clients ++ others := by
              rw [hall, hvalues]
              rfl
            rw [← hsame]
            exact (List.mergeSort_perm _ _).map _

/-- The entries of the current map, with nothing for the other clients, have the totals of the map. -/
theorem totalCurrent_rawClients :
    totalCurrent (projections.rawClients.map fun rawClient =>
      (projections.currentByClient.get rawClient).getD emptyCurrent) =
        totalCurrent projections.currentByClient.values := by
  have hnodup := rawClients_nodup projections
  have hkeys : ∀ rawClient ∈ projections.currentByClient.keys, rawClient ∈ projections.rawClients :=
    fun _ hmem => mem_rawClients.mpr (Or.inl hmem)
  apply current_ext
  · simp only [totalCurrent, List.map_map]
    exact Dictionary.sum_getD hnodup hkeys _ rfl
  · simp only [totalCurrent, List.map_map]
    exact Dictionary.sum_getD hnodup hkeys _ rfl
  · apply max?_congr
    intro age
    simp only [List.mem_filterMap, List.mem_map, Dictionary.mem_values_iff]
    constructor
    · rintro ⟨_, ⟨rawClient, -, rfl⟩, hage⟩
      cases hget : projections.currentByClient.get rawClient with
      | none =>
        rw [hget] at hage
        cases hage
      | some current =>
        rw [hget] at hage
        exact ⟨current, ⟨rawClient, hget⟩, hage⟩
    · rintro ⟨current, ⟨rawClient, hget⟩, hage⟩
      refine ⟨_, ⟨rawClient, hkeys _ (Dictionary.mem_keys_of_get hget), rfl⟩, ?_⟩
      rw [hget]
      exact hage

theorem totalWindow_rawClients (window : AlertWindowKey) :
    totalWindow (projections.rawClients.map fun rawClient =>
      windowMetrics ((projections.deliveryByClient.get rawClient).getD emptyDeliveryWindows)
        ((projections.leaseByClient.get rawClient).getD emptyLeaseWindows) window) =
      { eligible := (projections.deliveryByClient.values.map (·.eligible.at window)).sum
        leaseExpired := (projections.leaseByClient.values.map (·.at window)).sum
        unresolved := (projections.deliveryByClient.values.map (·.unresolved.at window)).sum } := by
  have hnodup := rawClients_nodup projections
  have hdeliveries : ∀ rawClient ∈ projections.deliveryByClient.keys, rawClient ∈ projections.rawClients :=
    fun _ hmem => mem_rawClients.mpr (Or.inr (Or.inl hmem))
  have hleases : ∀ rawClient ∈ projections.leaseByClient.keys, rawClient ∈ projections.rawClients :=
    fun _ hmem => mem_rawClients.mpr (Or.inr (Or.inr hmem))
  have hempty : emptyDeliveryWindows.eligible.at window = 0 ∧ emptyDeliveryWindows.unresolved.at window = 0 ∧
      emptyLeaseWindows.at window = 0 := by
    cases window <;> exact ⟨rfl, rfl, rfl⟩
  obtain ⟨heligible, hunresolved, hexpired⟩ := hempty
  have heligibleSum := Dictionary.sum_getD hnodup hdeliveries (·.eligible.at window) heligible
  have hunresolvedSum := Dictionary.sum_getD hnodup hdeliveries (·.unresolved.at window) hunresolved
  have hexpiredSum := Dictionary.sum_getD hnodup hleases (·.at window) hexpired
  rw [totalWindow, List.map_map, List.map_map, List.map_map, ← heligibleSum, ← hunresolvedSum, ← hexpiredSum]
  rfl

/-- The observations of the clients are parts of a global observation of the same rows. -/
theorem partitions_of_observed {global : LogoutDeliveryAlertObservation}
    {observations clients others : List LogoutDeliveryAlertObservation}
    (hglobal : globalObservation source starts asOf = .ok (some global))
    (hprojections : clientProjections source starts asOf = .ok (some projections))
    (hobserved : Observed asOf projections observations clients others) : Partitions global observations := by
  have hcurrents : projections.rawClients.map (fun rawClient =>
      (projections.currentByClient.get rawClient).getD emptyCurrent) = clients.map (·.current) := by
    refine table.map_eq_of_related ?_ hobserved.clients
    rintro rawClient client ⟨reference, hbuild⟩
    exact (clientObservation_eq_ok hbuild).1.symm
  have hmetrics : ∀ window, projections.rawClients.map (fun rawClient =>
      windowMetrics ((projections.deliveryByClient.get rawClient).getD emptyDeliveryWindows)
        ((projections.leaseByClient.get rawClient).getD emptyLeaseWindows) window) =
      clients.map (·.windows.at window) := by
    intro window
    refine table.map_eq_of_related ?_ hobserved.clients
    rintro rawClient client ⟨reference, hbuild⟩
    exact ((clientObservation_eq_ok hbuild).2.1 window).symm
  constructor
  case current =>
    have hothers : ∀ current ∈ others.map (·.current), current = emptyCurrent := by
      intro current hcurrent
      obtain ⟨other, hother, rfl⟩ := List.mem_map.mp hcurrent
      exact (hobserved.others other hother).1
    rw [totalCurrent_perm (hobserved.perm.map _), List.map_append, totalCurrent_append_empty hothers, ← hcurrents,
      totalCurrent_rawClients, totalCurrent_projections hglobal hprojections]
  case windows =>
    intro window
    have hothers : ∀ metrics ∈ others.map (·.windows.at window), metrics = emptyMetrics := by
      intro metrics hmem
      obtain ⟨other, hother, rfl⟩ := List.mem_map.mp hmem
      exact (hobserved.others other hother).2.1 window
    obtain ⟨heligible, hunresolved, hexpired⟩ := totalWindow_projections hglobal hprojections window
    rw [totalWindow_perm (hobserved.perm.map _), List.map_append, totalWindow_append_empty hothers, ← hmetrics window,
      totalWindow_rawClients, heligible, hunresolved, hexpired]

theorem observed_kind {observations clients others : List LogoutDeliveryAlertObservation}
    (hobserved : Observed asOf projections observations clients others) :
    ∀ observation ∈ observations, observation.dimension.kind = .hashed .clientHmac := by
  intro observation hmem
  obtain hclient | hother := List.mem_append.mp (hobserved.perm.mem_iff.mp hmem)
  · obtain ⟨rawClient, -, reference, hbuild⟩ := table.related_of_mem_right hobserved.clients hclient
    exact (clientObservation_eq_ok hbuild).2.2
  · exact (hobserved.others observation hother).2.2

end partition

section reader

variable {sign : Sign} {source : LogoutSource} {starts : Windowed Timestamp}
  {input : ReadLogoutDeliveryAlertSourceInput} {result : LogoutDeliveryAlertSourceResult}

theorem windows_of_windowsAt {asOf : Timestamp} {windows : List AlertWindowDescriptor}
    (hwindows : alertWindowsAt asOf = .ok windows) (hstarts : windowStarts windows = some starts) :
    Windows starts asOf := by
  simp only [alertWindowsAt, alertWindowAt, ALERT_WINDOW_KEYS, List.mapM_cons, List.mapM_nil, bind_eq_ok_iff, pure_eq_ok_iff,
    Timestamp.ofMs_eq_ok_iff] at hwindows
  obtain ⟨_, ⟨first, hfirst, rfl⟩, _, ⟨_, ⟨second, hsecond, rfl⟩, _, ⟨_, ⟨third, hthird, rfl⟩, _, rfl, rfl⟩, rfl⟩, rfl⟩ :=
    hwindows
  simp only [windowStarts, Option.some.injEq] at hstarts
  subst hstarts
  constructor
  · rw [hfirst]
    rfl
  · rw [hsecond]
    rfl
  · rw [hthird]
    rfl

theorem mem_incomplete {incomplete : List AlertDimensionKind} {observations : List LogoutDeliveryAlertObservation}
    {kind : AlertDimensionKind} (hkind : kind = .global ∨ kind = .hashed .clientHmac) :
    (∃ source ∈ (sourceResult incomplete observations).incomplete, source.dimensionKind = kind) ↔ kind ∈ incomplete := by
  simp only [sourceResult, List.mem_filterMap]
  constructor
  · rintro ⟨source, ⟨found, -, hfound⟩, rfl⟩
    split at hfound
    · rename_i hmem
      cases hfound
      exact hmem
    · cases hfound
  · intro hmem
    refine ⟨⟨kind, .logoutDeliveryHealth⟩, ⟨kind, ?_, if_pos hmem⟩, rfl⟩
    obtain rfl | rfl := hkind
    · exact List.mem_cons_self
    · exact List.mem_cons_of_mem _ List.mem_cons_self

/-- No observation of an incomplete kind is returned. -/
theorem sourceResult_kinds {incomplete : List AlertDimensionKind} {observations : List LogoutDeliveryAlertObservation} :
    ∀ source ∈ (sourceResult incomplete observations).incomplete,
      ∀ observation ∈ (sourceResult incomplete observations).observations,
        observation.dimension.kind ≠ source.dimensionKind := by
  intro source hsource observation hobservation
  simp only [sourceResult, List.mem_filterMap] at hsource
  obtain ⟨kind, -, hkind⟩ := hsource
  split at hkind
  · rename_i hmem
    cases hkind
    have hnot := of_decide_eq_true (List.mem_filter.mp hobservation).2
    rintro rfl
    exact hnot hmem
  · cases hkind

/-- A result is made of a global observation of the tables and of an outcome of the client loop. -/
theorem logoutSourceResult_eq_ok (hresult : logoutSourceResult sign source starts input = .ok result) :
    ∃ (global : Option LogoutDeliveryAlertObservation) (clients : ClientOutcome),
      (∀ observation ∈ global, globalObservation source starts input.asOf = .ok (some observation)) ∧
      (timestampIntegrityValid (ALERT_LOGOUT_TIMESTAMP_INTEGRITY_QUERY source) = true →
        ∀ observation, globalObservation source starts input.asOf = .ok (some observation) →
          global = some observation) ∧
      (clients = .incomplete ∨
        ∃ key, clientOutcome sign key source input.environment starts input.asOf global = .ok clients) ∧
      result = sourceResult ((if global = none then [.global] else []) ++ clients.incompleteKinds)
        (global.toList ++ clients.observations) := by
  rw [logoutSourceResult, bind_eq_ok_iff] at hresult
  obtain ⟨keyAvailable, -, hresult⟩ := hresult
  rw [pure_eq_ok_iff] at hresult
  refine ⟨_, _, ?_, ?_, ?_, hresult.symm⟩
  · intro observation hobservation
    rw [Option.mem_def] at hobservation
    split at hobservation
    · rw [Option.join_eq_some_iff] at hobservation
      cases hglobal : globalObservation source starts input.asOf with
      | ok found =>
        rw [hglobal, Except.toOption, Option.some.injEq] at hobservation
        rw [hobservation]
      | error code =>
        rw [hglobal] at hobservation
        cases hobservation
    · cases hobservation
  · intro htimestamps observation hglobal
    rw [if_pos htimestamps, hglobal]
    rfl
  · split
    · rename_i key _
      split
      · cases houtcome : clientOutcome sign key source input.environment starts input.asOf _ with
        | ok found => exact .inr ⟨key, houtcome⟩
        | error code => exact .inl rfl
      · exact .inl rfl
    · exact .inl rfl

/-- The observations of one kind in a result of which that kind is complete. -/
theorem sourceResult_filter {incomplete : List AlertDimensionKind} {observations : List LogoutDeliveryAlertObservation}
    {kind : AlertDimensionKind} (hkind : kind ∉ incomplete) :
    (sourceResult incomplete observations).observations.filter (fun observation => observation.dimension.kind = kind) =
      observations.filter fun observation => observation.dimension.kind = kind := by
  rw [sourceResult, List.filter_filter]
  apply List.filter_congr
  intro observation _
  by_cases heq : observation.dimension.kind = kind
  · rw [heq, decide_eq_true rfl, decide_eq_true hkind]
    rfl
  · rw [decide_eq_false heq]
    rfl

/-- Where both kinds are complete there is one global observation, which the clients partition. -/
theorem logoutSourceResult_partitions (hresult : logoutSourceResult sign source starts input = .ok result)
    (hcomplete : ∀ source ∈ result.incomplete, source.dimensionKind ≠ .global) :
    ∃ global, result.observations.filter (fun observation => observation.dimension.kind = .global) = [global] ∧
      ((∀ source ∈ result.incomplete, source.dimensionKind ≠ .hashed .clientHmac) →
        Partitions global
          (result.observations.filter fun observation => observation.dimension.kind = .hashed .clientHmac)) := by
  obtain ⟨global, clients, hglobal, -, hclients, rfl⟩ := logoutSourceResult_eq_ok hresult
  have hglobalKind := (not_congr (mem_incomplete (Or.inl rfl))).mp fun ⟨source, hsource, hkind⟩ =>
    hcomplete source hsource hkind
  cases global with
  | none => exact absurd (List.mem_append_left _ List.mem_cons_self) hglobalKind
  | some global =>
    have hread := hglobal global rfl
    obtain ⟨-, -, -, -, -, -, hdimension, -, -⟩ := globalObservation_eq_some hread
    have hkind : global.dimension.kind = .global := by
      rw [hdimension]
      rfl
    have hclient : ∀ observation ∈ clients.observations, observation.dimension.kind = .hashed .clientHmac := by
      cases clients with
      | incomplete => exact fun _ hmem => by cases hmem
      | inconsistent => exact fun _ hmem => by cases hmem
      | observed observations =>
        obtain ⟨key, hok⟩ := hclients.resolve_left (by rintro ⟨⟩)
        obtain ⟨projections, built, others, -, hobserved⟩ := clientOutcome_observed hok
        exact observed_kind hobserved
    refine ⟨global, ?_, ?_⟩
    · have hnone : clients.observations.filter (fun observation => observation.dimension.kind = .global) = [] := by
        rw [List.filter_eq_nil_iff]
        intro observation hmem
        rw [hclient observation hmem]
        decide
      rw [sourceResult_filter hglobalKind, List.filter_append, hnone, List.append_nil, Option.toList_some,
        List.filter_singleton, hkind]
      rfl
    · intro hclientComplete
      have hclientKind := (not_congr (mem_incomplete (Or.inr rfl))).mp fun ⟨source, hsource, hkind⟩ =>
        hclientComplete source hsource hkind
      have hall : clients.observations.filter (fun observation => observation.dimension.kind = .hashed .clientHmac) =
          clients.observations := by
        rw [List.filter_eq_self]
        intro observation hmem
        exact decide_eq_true (hclient observation hmem)
      have hnone : [global].filter (fun observation => observation.dimension.kind = .hashed .clientHmac) = [] := by
        rw [List.filter_singleton, hkind]
        rfl
      rw [sourceResult_filter hclientKind, List.filter_append, hall, Option.toList_some, hnone, List.nil_append]
      cases clients with
      | incomplete => exact absurd (List.mem_append_right _ List.mem_cons_self) hclientKind
      | inconsistent =>
        exact absurd (List.mem_append_right _ (List.mem_cons_of_mem _ List.mem_cons_self)) hclientKind
      | observed observations =>
        obtain ⟨key, hok⟩ := hclients.resolve_left (by rintro ⟨⟩)
        obtain ⟨projections, built, others, hprojections, hobserved⟩ := clientOutcome_observed hok
        exact partitions_of_observed hread hprojections hobserved

/-- The check of the clients against a global observation of the same rows never fails. -/
theorem clientOutcome_not_inconsistent {key : String} {global : Option LogoutDeliveryAlertObservation}
    (hglobal : ∀ observation ∈ global, globalObservation source starts input.asOf = .ok (some observation)) :
    clientOutcome sign key source input.environment starts input.asOf global ≠ .ok .inconsistent := by
  intro houtcome
  rw [clientOutcome, bind_eq_ok_iff] at houtcome
  obtain ⟨tracked, -, houtcome⟩ := houtcome
  rw [bind_eq_ok_iff] at houtcome
  obtain ⟨projections, hprojections, houtcome⟩ := houtcome
  cases tracked with
  | none => cases houtcome
  | some tracked =>
    cases projections with
    | none => cases houtcome
    | some projections =>
      simp only at houtcome
      split at houtcome
      · rename_i hmismatch
        obtain ⟨observation, hmem, hfalse⟩ := hmismatch
        rw [matchGlobal_of_projections (hglobal observation hmem) hprojections] at hfalse
        cases hfalse
      · split at houtcome
        · cases houtcome
        · rw [bind_eq_ok_iff] at houtcome
          obtain ⟨first, -, houtcome⟩ := houtcome
          rw [bind_eq_ok_iff] at houtcome
          obtain ⟨last, -, houtcome⟩ := houtcome
          split at houtcome <;> cases houtcome

/-- A global observation that the reader builds is in its result: its check takes none back. -/
theorem logoutSourceResult_keeps_global {global : LogoutDeliveryAlertObservation}
    (hresult : logoutSourceResult sign source starts input = .ok result)
    (htimestamps : timestampIntegrityValid (ALERT_LOGOUT_TIMESTAMP_INTEGRITY_QUERY source) = true)
    (hglobal : globalObservation source starts input.asOf = .ok (some global)) :
    global ∈ result.observations ∧ ∀ source ∈ result.incomplete, source.dimensionKind ≠ .global := by
  obtain ⟨found, clients, hfound, hread, hclients, rfl⟩ := logoutSourceResult_eq_ok hresult
  obtain rfl := hread htimestamps global hglobal
  have hkind : global.dimension.kind = .global := by
    obtain ⟨-, -, -, -, -, -, hdimension, -, -⟩ := globalObservation_eq_some hglobal
    rw [hdimension]
    rfl
  have hcomplete : AlertDimensionKind.global ∉
      (if some global = none then [AlertDimensionKind.global] else []) ++ clients.incompleteKinds := by
    rw [if_neg (Option.some_ne_none global), List.nil_append]
    cases clients with
    | incomplete => decide
    | observed observations => exact List.not_mem_nil
    | inconsistent =>
      obtain ⟨key, hok⟩ := hclients.resolve_left (by rintro ⟨⟩)
      exact absurd hok (clientOutcome_not_inconsistent hfound)
  constructor
  · refine List.mem_filter.mpr ⟨List.mem_append_left _ (Option.mem_toList.mpr rfl), ?_⟩
    rw [hkind]
    exact decide_eq_true hcomplete
  · intro source hsource hglobalKind
    exact hcomplete ((mem_incomplete (.inl rfl)).mp ⟨source, hsource, hglobalKind⟩)

theorem decodeHmacKey_of_available {key : String} {sentinel : Option AlertHashKeySentinel}
    (havailable : sentinelKeyAvailable sign sentinel (some key) = .ok true) : decodeHmacKey key = .ok () := by
  cases sentinel with
  | none => cases havailable
  | some row =>
    rw [sentinelKeyAvailable, throwIf_bind_eq_ok_iff] at havailable
    obtain ⟨-, havailable⟩ := havailable
    cases hkey : decodeHmacKey key with
    | ok done => rfl
    | error message =>
      rw [deriveAlertHashKeyFingerprintV1, hkey] at havailable
      cases havailable

/-- Within its limits the reader returns both kinds. -/
theorem logoutSourceResult_complete {key : String} (hwindows : Windows starts input.asOf)
    (htimestamps : timestampIntegrityValid (ALERT_LOGOUT_TIMESTAMP_INTEGRITY_QUERY source) = true)
    (hkey : input.hmacKeyBase64Url = some key)
    (havailable : sentinelKeyAvailable sign source.sentinel (some key) = .ok true)
    (hlimits : WithinLimits source starts input.asOf)
    (hdimensions : WithinDimensions sign key source input.environment starts input.asOf) :
    ∃ result, logoutSourceResult sign source starts input = .ok result ∧ result.incomplete = [] := by
  obtain ⟨global, hglobal⟩ := globalObservation_of_limits hwindows hlimits
  obtain ⟨observations, houtcome⟩ := clientOutcome_of_limits hwindows hlimits hdimensions
    (decodeHmacKey_of_available havailable) fun _ hprojections => matchGlobal_of_projections hglobal hprojections
  refine ⟨sourceResult [] ([global] ++ observations), ?_, rfl⟩
  rw [logoutSourceResult, hkey, havailable, ok_bind, if_pos htimestamps, hglobal]
  simp only [Except.toOption, Option.join_some]
  rw [if_pos ⟨htimestamps, trivial⟩, houtcome]
  rfl

end reader

/-- The observations of the logout source are projections of one state of the tables: those of an
incomplete kind are left out, those of the clients partition the global one, and the check of
the reader rejects none, so that within its limits both kinds are complete. -/
theorem logout_observations_consistent (sign : Sign) (batch : Option LogoutSource)
    (input : ReadLogoutDeliveryAlertSourceInput) :
    (∀ result, readLogoutDeliveryAlertSource sign batch input = .ok result →
      (∀ source ∈ result.incomplete, ∀ observation ∈ result.observations,
        observation.dimension.kind ≠ source.dimensionKind) ∧
      ((∀ source ∈ result.incomplete, source.dimensionKind ≠ .global) →
        ∃ global, result.observations.filter (fun observation => observation.dimension.kind = .global) = [global] ∧
          ((∀ source ∈ result.incomplete, source.dimensionKind ≠ .hashed .clientHmac) →
            Partitions global
              (result.observations.filter fun observation => observation.dimension.kind = .hashed .clientHmac)))) ∧
    ∀ windows starts source, alertWindowsAt input.asOf = .ok windows → windowStarts windows = some starts →
      batch = some source →
      timestampIntegrityValid (ALERT_LOGOUT_TIMESTAMP_INTEGRITY_QUERY source) = true →
      (∀ global result, globalObservation source starts input.asOf = .ok (some global) →
        readLogoutDeliveryAlertSource sign batch input = .ok result →
          global ∈ result.observations ∧ ∀ source ∈ result.incomplete, source.dimensionKind ≠ .global) ∧
      ∀ key, input.hmacKeyBase64Url = some key → sentinelKeyAvailable sign source.sentinel (some key) = .ok true →
        WithinLimits source starts input.asOf →
        WithinDimensions sign key source input.environment starts input.asOf →
          ∃ result, readLogoutDeliveryAlertSource sign batch input = .ok result ∧ result.incomplete = [] := by
  constructor
  · intro result hread
    obtain ⟨source, starts, hresult⟩ : ∃ source starts, logoutSourceResult sign source starts input = .ok result := by
      unfold readLogoutDeliveryAlertSource at hread
      split at hread
      · cases hread
      · split at hread
        · exact ⟨_, _, hread⟩
        · cases hread
    refine ⟨?_, logoutSourceResult_partitions hresult⟩
    obtain ⟨global, clients, -, -, -, rfl⟩ := logoutSourceResult_eq_ok hresult
    exact sourceResult_kinds
  · rintro windows starts source hwindows hstarts rfl htimestamps
    have hreads : readLogoutDeliveryAlertSource sign (some source) input = logoutSourceResult sign source starts input := by
      rw [readLogoutDeliveryAlertSource, hwindows]
      simp only [hstarts]
    rw [hreads]
    constructor
    · exact fun _ _ hglobal hresult => logoutSourceResult_keeps_global hresult htimestamps hglobal
    · intro key hkey havailable hlimits hdimensions
      exact logoutSourceResult_complete (windows_of_windowsAt hwindows hstarts) htimestamps hkey havailable hlimits
        hdimensions

/-- Two clients: of the one a delivery that is dead an hour after it was created, and whose lease
has expired; of the other a delivery that is still pending. -/
def logoutSourceExample : LogoutSource where
  sentinel := some
    { domain := "pgid.alert_subject_hash_key.v1", hashVersion := 1
      fingerprintRef := "J7EgApJRhSGZ_yfeoTBQPbYVmvAt7uA53CqWQLZfsuU" }
  states := []
  deliveries :=
    [⟨7, Text.of "mail", .dead, .canonical ⟨1700000300000, by decide⟩ (by decide)⟩,
      ⟨8, Text.of "wiki", .pending, .canonical ⟨1700003800000, by decide⟩ (by decide)⟩]
  attempts := [⟨7, .leaseExpired, some (.canonical ⟨1700003600000, by decide⟩ (by decide))⟩]
  deliveryIds := by decide
  attemptDeliveries := by decide

def logoutInputExample : ReadLogoutDeliveryAlertSourceInput where
  asOf := ⟨1700003900000, by decide⟩
  environment := .production
  hmacKeyBase64Url := some "AAECAwQFBgcICQoLDA0ODxAREhMUFRYXGBkaGxwdHh8"

/-- The codes of the two clients and of the key itself under that key. -/
def logoutSignExample : Sign := fun _ bytes =>
  if bytes = Text.encode (Text.of "pgid-alert-v1\x00client_hmac\x00mail") then
    "Gb_RphY4Cz1ZHCsNOlElCJ0Z18PnmCnS_-TNP-V90pE"
  else if bytes = Text.encode (Text.of "pgid-alert-v1\x00client_hmac\x00wiki") then
    "Rw8RLSsyaQPlCNrT2VLBRN6NuhskLFd2MpMoSlIxQ8M"
  else "J7EgApJRhSGZ_yfeoTBQPbYVmvAt7uA53CqWQLZfsuU"

def logoutStartsExample : Windowed Timestamp where
  w5m := ⟨1700003600000, by decide⟩
  w15m := ⟨1700003000000, by decide⟩
  w60m := ⟨1700000300000, by decide⟩

theorem length_clientGroups_le {P T : Type} {clientId : T → Text} {rows : List T} {projection : List T → P} :
    ((clientGroups clientId rows).map (Prod.map id projection)).length ≤ rows.length := by
  rw [List.length_map, clientGroups, List.length_take, sql.groups, List.length_map, List.length_mergeSort]
  have hle := (List.dedup_sublist (rows.map clientId)).length_le
  rw [List.length_map] at hle
  exact (Nat.min_le_right _ _).trans hle

theorem logoutLimitsExample : WithinLimits logoutSourceExample logoutStartsExample logoutInputExample.asOf where
  current := by decide
  age := by decide
  delivery := by decide
  lease := by decide
  currentClients := length_clientGroups_le.trans (by decide)
  deliveryClients := length_clientGroups_le.trans (by decide)
  leaseClients := length_clientGroups_le.trans (by decide)
  clientIds := by decide

theorem mem_clientGroups {P T : Type} {clientId : T → Text} {rows : List T} {projection : List T → P} {value : Text}
    (hvalue : value ∈ ((clientGroups clientId rows).map (Prod.map id projection)).map Prod.fst) :
    ∃ row ∈ rows, clientId row = value := by
  rw [List.map_map] at hvalue
  obtain ⟨group, hgroup, rfl⟩ := List.mem_map.mp hvalue
  obtain ⟨row, hrow, hsame⟩ := sql.mem_groups_keys.mp (List.mem_map_of_mem (List.mem_of_mem_take hgroup))
  exact ⟨row, hrow, hsame⟩

theorem rowClients_example {rawClient : Text}
    (hclient : rawClient ∈ rowClients logoutSourceExample logoutStartsExample logoutInputExample.asOf) :
    rawClient = Text.of "mail" ∨ rawClient = Text.of "wiki" := by
  have hdeliveries : ∀ delivery ∈ logoutSourceExample.deliveries,
      delivery.clientId = Text.of "mail" ∨ delivery.clientId = Text.of "wiki" := by decide
  rw [rowClients, List.mem_append, List.mem_append] at hclient
  obtain (hclient | hclient) | hclient := hclient
  · obtain ⟨row, hrow, rfl⟩ := mem_clientGroups hclient
    exact hdeliveries row (List.mem_filter.mp hrow).1
  · obtain ⟨row, hrow, rfl⟩ := mem_clientGroups hclient
    exact hdeliveries row (List.mem_filter.mp hrow).1
  · obtain ⟨joined, hjoined, rfl⟩ := mem_clientGroups hclient
    exact hdeliveries joined.1 (joined_client (List.mem_filter.mp hjoined).1)

theorem logoutDimensionsExample :
    WithinDimensions logoutSignExample "AAECAwQFBgcICQoLDA0ODxAREhMUFRYXGBkaGxwdHh8" logoutSourceExample .production
      logoutStartsExample logoutInputExample.asOf := by
  have htracked : ALERT_LOGOUT_TRACKED_DIMENSIONS_QUERY logoutSourceExample .production = [] := by
    rw [ALERT_LOGOUT_TRACKED_DIMENSIONS_QUERY, logoutSourceExample, List.filter_nil, List.filterMap_nil,
      List.mergeSort_nil, List.take_nil]
  have hmail : clientReference logoutSignExample "AAECAwQFBgcICQoLDA0ODxAREhMUFRYXGBkaGxwdHh8" (Text.of "mail") =
      "Gb_RphY4Cz1ZHCsNOlElCJ0Z18PnmCnS_-TNP-V90pE" := by decide
  have hwiki : clientReference logoutSignExample "AAECAwQFBgcICQoLDA0ODxAREhMUFRYXGBkaGxwdHh8" (Text.of "wiki") =
      "Rw8RLSsyaQPlCNrT2VLBRN6NuhskLFd2MpMoSlIxQ8M" := by decide
  constructor
  case tracked =>
    rw [htracked]
    exact Nat.zero_le _
  case stored =>
    rw [htracked]
    intro row hrow
    cases hrow
  case canonical =>
    intro rawClient hclient
    obtain rfl | rfl := rowClients_example hclient
    · rw [hmail]
      decide
    · rw [hwiki]
      decide
  case injective =>
    intro rawClient hclient other hother hsame
    obtain rfl | rfl := rowClients_example hclient <;> obtain rfl | rfl := rowClients_example hother
    · rfl
    · rw [hmail, hwiki] at hsame
      exact absurd hsame (by decide)
    · rw [hmail, hwiki] at hsame
      exact absurd hsame (by decide)
    · rfl
  case dimensions =>
    refine (List.dedup_sublist _).length_le.trans ?_
    have hcurrent : (ALERT_LOGOUT_CURRENT_CLIENT_QUERY logoutSourceExample logoutInputExample.asOf).length ≤ 2 :=
      length_clientGroups_le.trans (by decide)
    have hdelivery : (ALERT_LOGOUT_DELIVERY_CLIENT_QUERY logoutSourceExample logoutStartsExample
        logoutInputExample.asOf).length ≤ 2 := length_clientGroups_le.trans (by decide)
    have hlease : (ALERT_LOGOUT_LEASE_CLIENT_QUERY logoutSourceExample logoutStartsExample
        logoutInputExample.asOf).length ≤ 2 := length_clientGroups_le.trans (by decide)
    rw [dimensionReferences, htracked, List.map_nil, List.append_nil, List.length_map, rowClients, List.length_append,
      List.length_append, List.length_map, List.length_map, List.length_map, MAX_DIMENSION_GROUPS]
    omega

theorem logout_observations_consistent_example :
    ∃ result, readLogoutDeliveryAlertSource logoutSignExample (some logoutSourceExample) logoutInputExample =
        .ok result ∧
      result.incomplete = [] ∧
      ∃ global, result.observations.filter (fun observation => observation.dimension.kind = .global) = [global] ∧
        global.current = ⟨1, 2, some 3600⟩ ∧
        Partitions global
          (result.observations.filter fun observation => observation.dimension.kind = .hashed .clientHmac) ∧
        result.observations.filter (fun observation => observation.dimension.kind = .hashed .clientHmac) ≠ [] := by
  obtain ⟨hsound, hreader⟩ := logout_observations_consistent logoutSignExample (some logoutSourceExample)
    logoutInputExample
  obtain ⟨hkept, hcomplete⟩ := hreader _ logoutStartsExample logoutSourceExample rfl rfl rfl (by decide)
  obtain ⟨result, hread, hincomplete⟩ := hcomplete _ rfl (by decide) logoutLimitsExample logoutDimensionsExample
  obtain ⟨found, hfound, hpartitions⟩ := (hsound result hread).2 (by rw [hincomplete]; decide)
  have hclients := hpartitions (by rw [hincomplete]; decide)
  obtain ⟨global, hglobal, hcurrent, hkind⟩ : ∃ global, globalObservation logoutSourceExample logoutStartsExample
      logoutInputExample.asOf = .ok (some global) ∧ global.current = ⟨1, 2, some 3600⟩ ∧
        global.dimension.kind = .global := ⟨_, rfl, rfl, rfl⟩
  have hmem : global ∈ result.observations.filter fun observation => observation.dimension.kind = .global :=
    List.mem_filter.mpr ⟨(hkept global result hglobal hread).1, decide_eq_true hkind⟩
  rw [hfound, List.mem_singleton] at hmem
  subst hmem
  refine ⟨result, hread, hincomplete, global, hfound, hcurrent, hclients, ?_⟩
  intro hnone
  have htotal := hclients.current
  rw [hnone, hcurrent] at htotal
  cases htotal

end pgid.alert.logout
