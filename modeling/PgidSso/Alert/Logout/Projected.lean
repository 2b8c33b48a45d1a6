import Mathlib.Algebra.Order.BigOperators.Group.List
import PgidSso.Alert.Logout.Parsed

open checked

namespace pgid.alert.logout

section grouped

variable {P T : Type} {clientId : T → Text} {rows : List T} {projection : List T → P}

/-- Within the limit of the query no client is left out. -/
theorem clientGroups_of_le
    (hlimit : ((clientGroups clientId rows).map (Prod.map id projection)).length ≤ MAX_DIMENSION_GROUPS) :
    clientGroups clientId rows = sql.groups bytesPrecede clientId rows := by
  rw [List.length_map, clientGroups, List.length_take] at hlimit
  rw [clientGroups, List.take_of_length_le]
  unfold DIMENSION_QUERY_LIMIT at hlimit ⊢
  omega

/-- What a projection counts adds up over the clients. -/
theorem sum_clientGroups {count : P → Nat} (selected : T → Bool)
    (hcount : ∀ members, count (projection members) = members.countP selected)
    (hlimit : ((clientGroups clientId rows).map (Prod.map id projection)).length ≤ MAX_DIMENSION_GROUPS) :
    (((clientGroups clientId rows).map (Prod.map id projection)).map fun row => (count row.2 : Int)).sum =
      count (projection rows) := by
  rw [clientGroups_of_le hlimit, List.map_map, hcount rows, ← sql.sum_groups bytesPrecede clientId]
  congr 1
  apply List.map_congr_left
  rintro ⟨_, members⟩ _
  rw [Function.comp_apply, Prod.map_snd, hcount]

end grouped

section joined

variable {source : LogoutSource} {starts : Windowed Timestamp} {asOf : Timestamp}

theorem filter_key_eq_singleton {ρ κ : Type} [DecidableEq κ] {key : ρ → κ} {rows : List ρ} {row : ρ}
    (hunique : (rows.map key).Nodup) (hrow : row ∈ rows) :
    (rows.filter fun other => key other = key row) = [row] :=
  table.matched_eq_singleton hunique hrow rfl fun _ _ hkey => hkey

/-- An attempt joins the one delivery it refers to. -/
theorem joinedAttempts_snd : (joinedAttempts source).map Prod.snd = source.attempts := by
  rw [joinedAttempts, List.map_flatMap]
  have hone : ∀ attempt ∈ source.attempts,
      ((source.deliveries.filter fun delivery => delivery.id = attempt.deliveryId).map fun delivery =>
        (delivery, attempt)).map Prod.snd = [attempt] := by
    intro attempt hattempt
    obtain ⟨delivery, hdelivery, hid⟩ := source.attemptDeliveries attempt hattempt
    have hdeliveries : (source.deliveries.filter fun other => other.id = delivery.id) = [delivery] :=
      filter_key_eq_singleton source.deliveryIds hdelivery
    rw [← hid, hdeliveries]
    rfl
  rw [List.flatMap_congr hone, List.flatMap_singleton']

theorem joined_lease_rows :
    ((joinedAttempts source).filter fun joined => LeaseExpiredWithin starts asOf joined.2).map Prod.snd =
      source.attempts.filter fun row => LeaseExpiredWithin starts asOf row := by
  rw [← joinedAttempts_snd, List.filter_map]
  rfl

end joined

section totals

/-- The figures of the clients together: the counts added up, and the greatest age. -/
def totalCurrent (clients : List LogoutDeliveryCurrentSnapshot) : LogoutDeliveryCurrentSnapshot where
  currentDead := (clients.map (·.currentDead)).sum
  currentUnresolved := (clients.map (·.currentUnresolved)).sum
  oldestUnresolvedAgeSeconds := (clients.filterMap (·.oldestUnresolvedAgeSeconds)).max?

def totalWindow (clients : List LogoutDeliveryWindowMetrics) : LogoutDeliveryWindowMetrics where
  eligible := (clients.map (·.eligible)).sum
  leaseExpired := (clients.map (·.leaseExpired)).sum
  unresolved := (clients.map (·.unresolved)).sum

/-- The observations of the clients are parts of the global one. -/
structure Partitions (global : LogoutDeliveryAlertObservation) (clients : List LogoutDeliveryAlertObservation) :
    Prop where
  current : totalCurrent (clients.map (·.current)) = global.current
  windows : ∀ window, totalWindow (clients.map (·.windows.at window)) = global.windows.at window

end totals

section ages

variable {stored : List StoredTimestamp} {asOf : Timestamp}

theorem oldest_eq_some {created : Timestamp} (holdest : oldest stored = some created) :
    created ∈ instants stored ∧ ∀ other ∈ instants stored, created.ms ≤ other.ms :=
  ⟨List.argmin_mem holdest, fun _ hother => List.le_of_mem_argmin hother holdest⟩

theorem oldest_eq_none_iff : oldest stored = none ↔ instants stored = [] :=
  List.argmin_eq_none

theorem ageSeconds_le {left right : Timestamp} (hle : left.ms ≤ right.ms) :
    ageSeconds asOf right ≤ ageSeconds asOf left := by
  unfold ageSeconds
  omega

/-- The oldest instant of parts that cover a column has the greatest age of the parts' oldest ones. -/
theorem max?_ages (asOf : Timestamp) {parts : List (List StoredTimestamp)}
    (hparts : ∀ instant, instant ∈ instants stored ↔ ∃ part ∈ parts, instant ∈ instants part) :
    (parts.filterMap fun part => (oldest part).map (ageSeconds asOf)).max? = (oldest stored).map (ageSeconds asOf) := by
  cases hoverall : oldest stored with
  | none =>
    have hnone : ∀ part ∈ parts, (oldest part).map (ageSeconds asOf) = none := by
      intro part hpart
      rw [Option.map_eq_none_iff, oldest_eq_none_iff, List.eq_nil_iff_forall_not_mem]
      intro instant hinstant
      have hmem := (hparts instant).mpr ⟨part, hpart, hinstant⟩
      rw [oldest_eq_none_iff.mp hoverall] at hmem
      cases hmem
    rw [List.filterMap_eq_nil_iff.mpr hnone]
    rfl
  | some created =>
    obtain ⟨hmem, hle⟩ := oldest_eq_some hoverall
    rw [Option.map_some, List.max?_eq_some_iff]
    constructor
    · obtain ⟨part, hpart, hinstant⟩ := (hparts created).mp hmem
      rw [List.mem_filterMap]
      refine ⟨part, hpart, ?_⟩
      cases hfirst : oldest part with
      | none =>
        rw [oldest_eq_none_iff.mp hfirst] at hinstant
        cases hinstant
      | some first =>
        obtain ⟨hfirstMem, hfirstLe⟩ := oldest_eq_some hfirst
        have hge := hle first ((hparts first).mpr ⟨part, hpart, hfirstMem⟩)
        have hsame : first.ms = created.ms := by
          have := hfirstLe created hinstant
          omega
        rw [Option.map_some, ageSeconds, ageSeconds, hsame]
    · intro age hage
      rw [List.mem_filterMap] at hage
      obtain ⟨part, hpart, hsome⟩ := hage
      obtain ⟨first, hfirst, rfl⟩ := Option.map_eq_some_iff.mp hsome
      obtain ⟨hfirstMem, -⟩ := oldest_eq_some hfirst
      exact ageSeconds_le (hle first ((hparts first).mpr ⟨part, hpart, hfirstMem⟩))

end ages

section projections

variable {source : LogoutSource} {starts : Windowed Timestamp} {asOf : Timestamp}
  {global : LogoutDeliveryAlertObservation} {projections : ClientProjections}

/-- The figures of an accepted global row are those of its columns. -/
theorem globalObservation_eq_some (hglobal : globalObservation source starts asOf = .ok (some global)) :
    ∃ current delivery leaseExpired,
      parseCurrentSnapshot (ALERT_LOGOUT_CURRENT_GLOBAL_QUERY source asOf) asOf = .ok (some current) ∧
      parseDeliveryWindows (ALERT_LOGOUT_DELIVERY_GLOBAL_QUERY source starts asOf) starts asOf =
        .ok (some delivery) ∧
      parseLeaseWindows (ALERT_LOGOUT_LEASE_GLOBAL_QUERY source starts asOf) starts asOf = .ok (some leaseExpired) ∧
      global.dimension = .global ∧ global.current = current ∧
      ∀ window, global.windows.at window = windowMetrics delivery leaseExpired window := by
  simp only [globalObservation, bind_eq_ok_iff] at hglobal
  obtain ⟨current, hcurrent, delivery, hdelivery, leaseExpired, hlease, hrest⟩ := hglobal
  cases current with
  | none => cases hrest
  | some current =>
    cases delivery with
    | none => cases hrest
    | some delivery =>
      cases leaseExpired with
      | none => cases hrest
      | some leaseExpired =>
        simp only [bind_eq_ok_iff, pure_eq_ok_iff, Option.some.injEq] at hrest
        obtain ⟨observation, hbuild, rfl⟩ := hrest
        obtain ⟨-, -, -, -, rfl⟩ := buildObservation_eq_ok_iff.mp hbuild
        refine ⟨current, delivery, leaseExpired, hcurrent, hdelivery, hlease, rfl, rfl, ?_⟩
        intro window
        cases window <;> rfl

theorem clientProjections_eq_some (hclients : clientProjections source starts asOf = .ok (some projections)) :
    parseClientRows (ALERT_LOGOUT_CURRENT_CLIENT_QUERY source asOf)
        (nonempty (fun row => parseCurrentSnapshot row asOf) (·.currentUnresolved)) =
      .ok (some projections.currentByClient) ∧
    parseClientRows (ALERT_LOGOUT_DELIVERY_CLIENT_QUERY source starts asOf)
        (nonempty (fun row => parseDeliveryWindows row starts asOf) (·.eligible.w60m)) =
      .ok (some projections.deliveryByClient) ∧
    parseClientRows (ALERT_LOGOUT_LEASE_CLIENT_QUERY source starts asOf)
        (nonempty (fun row => parseLeaseWindows row starts asOf) (·.w60m)) =
      .ok (some projections.leaseByClient) := by
  simp only [clientProjections, bind_eq_ok_iff] at hclients
  obtain ⟨current, hcurrent, delivery, hdelivery, lease, hlease, hrest⟩ := hclients
  cases current with
  | none => cases hrest
  | some current =>
    cases delivery with
    | none => cases hrest
    | some delivery =>
      cases lease with
      | none => cases hrest
      | some lease =>
        rw [pure_eq_ok_iff, Option.some.injEq] at hrest
        subst hrest
        exact ⟨hcurrent, hdelivery, hlease⟩

/-- A figure that a projection counts adds up over the accepted clients. -/
theorem sum_values {P R T : Type} {clientId : R → Text} {rows : List R} {projection : List R → P}
    {parser : P → Fallible (Option T)} {nonzero : T → Int} {parsed : Dictionary Text T} (amount : T → Int)
    (count : P → Nat) (selected : R → Bool)
    (hparse : parseClientRows ((clientGroups clientId rows).map (Prod.map id projection)) (nonempty parser nonzero) =
      .ok (some parsed))
    (hamount : ∀ row metrics, parser row = .ok (some metrics) → amount metrics = count row)
    (hcount : ∀ members, count (projection members) = members.countP selected) :
    (parsed.values.map amount).sum = count (projection rows) := by
  obtain ⟨hlimit, hrows⟩ := parseClientRows_eq_some hparse
  rw [Dictionary.values, sum_of_forall₂ hrows fun row metrics hrow => hamount row metrics (nonempty_eq_some hrow).1]
  exact sum_clientGroups selected hcount hlimit

theorem length_eq_countP {T : Type} (members : List T) : members.length = members.countP fun _ => true :=
  (congrFun List.countP_true members).symm

theorem eligible_counted (starts : Windowed Timestamp) (window : AlertWindowKey) : ∃ selected : LogoutDelivery → Bool,
    ∀ members, (DELIVERY_WINDOW_PROJECTION starts members).eligible.at window = members.countP selected := by
  cases window with
  | w5m => exact ⟨_, fun _ => rfl⟩
  | w15m => exact ⟨_, fun _ => rfl⟩
  | w60m => exact ⟨fun _ => true, length_eq_countP⟩

theorem unresolved_counted (starts : Windowed Timestamp) (window : AlertWindowKey) : ∃ selected : LogoutDelivery → Bool,
    ∀ members, (DELIVERY_WINDOW_PROJECTION starts members).unresolved.at window = members.countP selected := by
  cases window with
  | w5m => exact ⟨_, fun _ => rfl⟩
  | w15m => exact ⟨_, fun _ => rfl⟩
  | w60m => exact ⟨_, fun _ => rfl⟩

theorem leaseExpired_counted (starts : Windowed Timestamp) (window : AlertWindowKey) : ∃ selected : LogoutDeliveryAttempt → Bool,
    ∀ members, (LEASE_WINDOW_PROJECTION starts members).leaseExpired.at window = members.countP selected := by
  cases window with
  | w5m => exact ⟨_, fun _ => rfl⟩
  | w15m => exact ⟨_, fun _ => rfl⟩
  | w60m => exact ⟨fun _ => true, length_eq_countP⟩

theorem instants_map {T : Type} {createdAt : T → StoredTimestamp} {rows : List T} {instant : Timestamp} :
    instant ∈ instants (rows.map createdAt) ↔ ∃ row ∈ rows, (createdAt row).instant = some instant := by
  simp only [instants, List.mem_filterMap, List.mem_map]
  constructor
  · rintro ⟨_, ⟨row, hrow, rfl⟩, hinstant⟩
    exact ⟨row, hrow, hinstant⟩
  · rintro ⟨row, hrow, hinstant⟩
    exact ⟨_, ⟨row, hrow, rfl⟩, hinstant⟩

/-- The ages of the accepted clients are those of the parts of the table. -/
theorem ages_of_forall₂ {rows : List (Text × CurrentProjection)} {entries : List (Text × LogoutDeliveryCurrentSnapshot)}
    (hrows : List.Forall₂ (fun row entry => row.1 = entry.1 ∧
      nonempty (fun row => parseCurrentSnapshot row asOf) (·.currentUnresolved) row.2 = .ok (some entry.2))
      rows entries) :
    (entries.map Prod.snd).filterMap (·.oldestUnresolvedAgeSeconds) =
      rows.filterMap fun row => row.2.oldestUnresolvedCreatedAt.map (ageSeconds asOf) := by
  induction hrows with
  | nil => rfl
  | cons hhead _ ih =>
    obtain ⟨-, -, hage, -, -⟩ := parseCurrentSnapshot_eq_some (nonempty_eq_some hhead.2).1
    rw [List.map_cons, List.filterMap_cons, List.filterMap_cons, ih, hage]

theorem current_ext {left right : LogoutDeliveryCurrentSnapshot} (hdead : left.currentDead = right.currentDead)
    (hunresolved : left.currentUnresolved = right.currentUnresolved)
    (hage : left.oldestUnresolvedAgeSeconds = right.oldestUnresolvedAgeSeconds) : left = right := by
  cases left
  cases right
  simp only at hdead hunresolved hage
  rw [hdead, hunresolved, hage]

/-- The deliveries of the clients make up those of the table. -/
theorem totalCurrent_projections (hglobal : globalObservation source starts asOf = .ok (some global))
    (hclients : clientProjections source starts asOf = .ok (some projections)) :
    totalCurrent projections.currentByClient.values = global.current := by
  obtain ⟨current, -, -, hcurrent, -, -, -, rfl, -⟩ := globalObservation_eq_some hglobal
  obtain ⟨hparse, -, -⟩ := clientProjections_eq_some hclients
  obtain ⟨hunresolved, hdead, hage, -, -⟩ := parseCurrentSnapshot_eq_some hcurrent
  have hsumUnresolved := sum_values (·.currentUnresolved) (·.currentUnresolved) (fun _ => true) hparse
    (fun _ _ hrow => (parseCurrentSnapshot_eq_some hrow).1) length_eq_countP
  have hsumDead := sum_values (·.currentDead) (·.currentDead) _ hparse (fun _ _ hrow => (parseCurrentSnapshot_eq_some hrow).2.1) fun _ => rfl
  have hmax : (projections.currentByClient.values.filterMap (·.oldestUnresolvedAgeSeconds)).max? =
      (oldest ((currentRows source asOf).map (·.createdAt))).map (ageSeconds asOf) := by
    obtain ⟨hlimit, hrows⟩ := parseClientRows_eq_some hparse
    rw [Dictionary.values, ages_of_forall₂ hrows, ALERT_LOGOUT_CURRENT_CLIENT_QUERY, clientGroups_of_le hlimit,
      List.filterMap_map]
    have hcover : ∀ instant, instant ∈ instants ((currentRows source asOf).map (·.createdAt)) ↔
        ∃ part ∈ (sql.groups bytesPrecede (·.clientId) (currentRows source asOf)).map fun found =>
          found.2.map (·.createdAt), instant ∈ instants part := by
      intro instant
      simp only [instants_map, List.mem_map, Prod.exists]
      constructor
      · rintro ⟨row, hrow, hinstant⟩
        obtain ⟨members, hmembers, hmem⟩ := sql.exists_group bytesPrecede (·.clientId) hrow
        exact ⟨_, ⟨_, _, hmembers, rfl⟩, instants_map.mpr ⟨row, hmem, hinstant⟩⟩
      · rintro ⟨_, ⟨clientId, members, hmembers, rfl⟩, hinstant⟩
        obtain ⟨row, hrow, hsome⟩ := instants_map.mp hinstant
        rw [sql.mem_groups hmembers] at hrow
        exact ⟨row, (sql.mem_group.mp hrow).1, hsome⟩
    rw [← max?_ages asOf hcover, List.filterMap_map]
    rfl
  exact current_ext (hsumDead.trans hdead.symm) (hsumUnresolved.trans hunresolved.symm) (hmax.trans hage.symm)

/-- The windows of the clients make up those of the table. -/
theorem totalWindow_projections (hglobal : globalObservation source starts asOf = .ok (some global))
    (hclients : clientProjections source starts asOf = .ok (some projections)) (window : AlertWindowKey) :
    (projections.deliveryByClient.values.map (·.eligible.at window)).sum = (global.windows.at window).eligible ∧
      (projections.deliveryByClient.values.map (·.unresolved.at window)).sum =
        (global.windows.at window).unresolved ∧
      (projections.leaseByClient.values.map (·.at window)).sum = (global.windows.at window).leaseExpired := by
  obtain ⟨-, delivery, leaseExpired, -, hdelivery, hlease, -, -, hwindows⟩ := globalObservation_eq_some hglobal
  obtain ⟨-, hdeliveries, hleases⟩ := clientProjections_eq_some hclients
  obtain ⟨heligible, hunresolved, -, -⟩ := parseDeliveryWindows_eq_some hdelivery window
  obtain ⟨hexpired, -⟩ := parseLeaseWindows_eq_some hlease window
  rw [hwindows window]
  refine ⟨?_, ?_, ?_⟩
  · obtain ⟨selected, hselected⟩ := eligible_counted starts window
    have hsum := sum_values (·.eligible.at window) (·.eligible.at window) selected hdeliveries
      (fun _ _ hrow => (parseDeliveryWindows_eq_some hrow window).1) hselected
    exact hsum.trans heligible.symm
  · obtain ⟨selected, hselected⟩ := unresolved_counted starts window
    have hsum := sum_values (·.unresolved.at window) (·.unresolved.at window) selected hdeliveries
      (fun _ _ hrow => (parseDeliveryWindows_eq_some hrow window).2.1) hselected
    exact hsum.trans hunresolved.symm
  · obtain ⟨selected, hselected⟩ := leaseExpired_counted starts window
    have hsum := sum_values (·.at window) (·.leaseExpired.at window) (fun joined => selected joined.2) hleases
      (fun _ _ hrow => (parseLeaseWindows_eq_some hrow window).1) fun members => by
        rw [hselected, List.countP_map]
        rfl
    rw [joined_lease_rows] at hsum
    exact hsum.trans hexpired.symm

end projections

section matched

variable {T : Type} {select : T → Int} {values : List T}

/-- The loop adds up what does not exceed its limit. -/
theorem sumFrom_eq {total : Int} (hnonneg : ∀ value ∈ values, 0 ≤ select value)
    (hlimit : total + (values.map select).sum ≤ MAX_EVIDENCE_COUNT) :
    sumFrom select values total = some (total + (values.map select).sum) := by
  induction values generalizing total with
  | nil => rw [sumFrom, List.map_nil, List.sum_nil, Int.add_zero]
  | cons value values ih =>
    obtain ⟨-, htail⟩ := List.forall_mem_cons.mp hnonneg
    have hrest : 0 ≤ (values.map select).sum := by
      apply List.sum_nonneg
      intro amount hamount
      obtain ⟨other, hother, rfl⟩ := List.mem_map.mp hamount
      exact htail other hother
    rw [List.map_cons, List.sum_cons] at hlimit ⊢
    rw [sumFrom, if_neg (by omega), ih htail (by omega), Int.add_assoc]

theorem sumClientValues_eq (hnonneg : ∀ value ∈ values, 0 ≤ select value)
    (hlimit : (values.map select).sum ≤ MAX_EVIDENCE_COUNT) :
    sumClientValues values select = some (values.map select).sum := by
  rw [sumClientValues, sumFrom_eq hnonneg (by omega), Int.zero_add]

theorem olderAge_of_none {client : LogoutDeliveryCurrentSnapshot} (hage : client.oldestUnresolvedAgeSeconds = none)
    (age : Option Int) : olderAge age client = age := by
  unfold olderAge
  rw [hage]

theorem olderAge_of_some {client : LogoutDeliveryCurrentSnapshot} {own : Int}
    (hage : client.oldestUnresolvedAgeSeconds = some own) (age : Option Int) :
    olderAge age client = some (age.elim own fun age => max age own) := by
  unfold olderAge
  rw [hage]
  cases age with
  | none => rfl
  | some age => rfl

theorem foldl_olderAge_some (clients : List LogoutDeliveryCurrentSnapshot) (age : Int) :
    clients.foldl olderAge (some age) =
      some ((clients.filterMap (·.oldestUnresolvedAgeSeconds)).foldl max age) := by
  induction clients generalizing age with
  | nil => rfl
  | cons client clients ih =>
    cases hage : client.oldestUnresolvedAgeSeconds with
    | none => rw [List.foldl_cons, olderAge_of_none hage, ih, List.filterMap_cons_none hage]
    | some own =>
      rw [List.foldl_cons, olderAge_of_some hage, Option.elim_some, ih, List.filterMap_cons_some hage, List.foldl_cons]

/-- The loop finds the greatest age. -/
theorem foldl_olderAge (clients : List LogoutDeliveryCurrentSnapshot) :
    clients.foldl olderAge none = (clients.filterMap (·.oldestUnresolvedAgeSeconds)).max? := by
  induction clients with
  | nil => rfl
  | cons client clients ih =>
    cases hage : client.oldestUnresolvedAgeSeconds with
    | none => rw [List.foldl_cons, olderAge_of_none hage, ih, List.filterMap_cons_none hage]
    | some own =>
      rw [List.foldl_cons, olderAge_of_some hage, Option.elim_none, foldl_olderAge_some,
        List.filterMap_cons_some hage, List.max?_cons']

/-- What a figure of the rows is, that of the accepted clients is not negative. -/
theorem values_nonneg {P : Type} {rows : List (Text × P)} {parser : P → Fallible (Option T)} {nonzero : T → Int}
    {parsed : Dictionary Text T} {count : P → Nat}
    (hparse : parseClientRows rows (nonempty parser nonzero) = .ok (some parsed))
    (hselect : ∀ row metrics, parser row = .ok (some metrics) → select metrics = count row) :
    ∀ value ∈ parsed.values, 0 ≤ select value := by
  intro value hvalue
  obtain ⟨-, hrows⟩ := parseClientRows_eq_some hparse
  obtain ⟨entry, hentry, rfl⟩ := List.mem_map.mp hvalue
  obtain ⟨row, -, -, hread⟩ := table.related_of_mem_right hrows hentry
  rw [hselect _ _ (nonempty_eq_some hread).1]
  exact Int.natCast_nonneg _

variable {source : LogoutSource} {starts : Windowed Timestamp} {asOf : Timestamp}
  {global : LogoutDeliveryAlertObservation} {projections : ClientProjections}

/-- The check of the reader accepts what it reads from one state of the tables. -/
theorem matchGlobal_of_projections (hglobal : globalObservation source starts asOf = .ok (some global))
    (hclients : clientProjections source starts asOf = .ok (some projections)) :
    projections.matchGlobal global = true := by
  have hcurrent := totalCurrent_projections hglobal hclients
  obtain ⟨current, delivery, leaseExpired, hrow, hdelivery, hlease, -, rfl, hwindows⟩ :=
    globalObservation_eq_some hglobal
  obtain ⟨hparse, hdeliveries, hleases⟩ := clientProjections_eq_some hclients
  obtain ⟨-, -, -, hunresolvedLe, hdeadLe⟩ := parseCurrentSnapshot_eq_some hrow
  rw [← hcurrent] at hunresolvedLe hdeadLe
  have hunresolved := sumClientValues_eq (values_nonneg hparse fun _ _ hread => (parseCurrentSnapshot_eq_some hread).1)
    hunresolvedLe
  have hdead := sumClientValues_eq (values_nonneg hparse fun _ _ hread => (parseCurrentSnapshot_eq_some hread).2.1)
    hdeadLe
  have hwindow : ∀ window,
      sumClientValues projections.deliveryByClient.values (fun delivery => delivery.eligible.at window) =
        some (global.windows.at window).eligible ∧
      sumClientValues projections.deliveryByClient.values (fun delivery => delivery.unresolved.at window) =
        some (global.windows.at window).unresolved ∧
      sumClientValues projections.leaseByClient.values (fun lease => lease.at window) =
        some (global.windows.at window).leaseExpired := by
    intro window
    obtain ⟨heligible, hunresolved, hexpired⟩ := totalWindow_projections hglobal hclients window
    obtain ⟨-, -, heligibleLe, hunresolvedLe⟩ := parseDeliveryWindows_eq_some hdelivery window
    obtain ⟨-, hexpiredLe⟩ := parseLeaseWindows_eq_some hlease window
    have hratio : MAX_RATIO_COUNT ≤ MAX_EVIDENCE_COUNT := by decide
    rw [hwindows window] at heligible hunresolved hexpired ⊢
    have heligibleSum := sumClientValues_eq
      (values_nonneg hdeliveries fun _ _ hread => (parseDeliveryWindows_eq_some hread window).1)
      ((le_of_eq heligible).trans (heligibleLe.trans hratio))
    have hunresolvedSum := sumClientValues_eq
      (values_nonneg hdeliveries fun _ _ hread => (parseDeliveryWindows_eq_some hread window).2.1)
      ((le_of_eq hunresolved).trans (hunresolvedLe.trans hratio))
    have hexpiredSum := sumClientValues_eq
      (values_nonneg hleases fun _ _ hread => (parseLeaseWindows_eq_some hread window).1)
      ((le_of_eq hexpired).trans hexpiredLe)
    exact ⟨heligibleSum.trans (congrArg some heligible), hunresolvedSum.trans (congrArg some hunresolved),
      hexpiredSum.trans (congrArg some hexpired)⟩
  rw [ClientProjections.matchGlobal, clientProjectionsMatchGlobal]
  simp only
  rw [if_neg, List.all_eq_true]
  · intro window _
    exact decide_eq_true (hwindow window)
  · rw [← hcurrent]
    rintro (hne | hne | hne)
    · exact hne hunresolved
    · exact hne hdead
    · exact hne (foldl_olderAge _)

end matched

end pgid.alert.logout
