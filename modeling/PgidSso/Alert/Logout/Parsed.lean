import PgidSso.Alert.Logout.Source

open checked

namespace pgid.alert.logout

section counts

variable {value : Nat} {maximum count : Int}

theorem sourceCount_eq_ok_some_iff :
    sourceCount value maximum = .ok (some count) ↔
      value ≤ MAX_SAFE_INTEGER ∧ value ≤ maximum ∧ count = value := by
  rw [sourceCount, throwIf_bind_eq_ok_iff, pure_eq_ok_iff]
  constructor
  · rintro ⟨hsafe, hcount⟩
    split at hcount
    · cases hcount
    · cases hcount
      refine ⟨?_, ?_, rfl⟩ <;> omega
  · rintro ⟨hsafe, hmaximum, rfl⟩
    refine ⟨by omega, ?_⟩
    rw [if_neg (by omega)]

theorem sourceCounts_eq_ok_some {values : Windowed Nat} {read : Windowed (Option Int)} {counts : Windowed Int}
    (hread : sourceCounts values maximum = .ok read) (hcounts : knownCounts read = some counts) :
    (∀ window, counts.at window = values.at window) ∧ ∀ window, counts.at window ≤ maximum := by
  simp only [sourceCounts, bind_eq_ok_iff, pure_eq_ok_iff] at hread
  obtain ⟨first, hfirst, second, hsecond, third, hthird, rfl⟩ := hread
  simp only [knownCounts, Option.bind_eq_bind, Option.bind_eq_some_iff, Option.pure_def, Option.some.injEq] at hcounts
  obtain ⟨w5m, rfl, w15m, rfl, w60m, rfl, rfl⟩ := hcounts
  obtain ⟨-, hle5, h5⟩ := sourceCount_eq_ok_some_iff.mp hfirst
  obtain ⟨-, hle15, h15⟩ := sourceCount_eq_ok_some_iff.mp hsecond
  obtain ⟨-, hle60, h60⟩ := sourceCount_eq_ok_some_iff.mp hthird
  constructor
  · intro window
    cases window with
    | w5m => exact h5
    | w15m => exact h15
    | w60m => exact h60
  · intro window
    cases window with
    | w5m => exact h5 ▸ hle5
    | w15m => exact h15 ▸ hle15
    | w60m => exact h60 ▸ hle60

/-- The counts of nested windows, as numbers. -/
def counted (values : Windowed Nat) : Windowed Int :=
  values.map fun value : Nat => (value : Int)

theorem sourceCounts_of_le {values : Windowed Nat} (hsafe : maximum ≤ MAX_SAFE_INTEGER)
    (hle : ∀ window, (values.at window : Int) ≤ maximum) :
    ∃ read, sourceCounts values maximum = .ok read ∧ knownCounts read = some (counted values) := by
  have hread : ∀ window, sourceCount (values.at window) maximum = .ok (some (values.at window : Int)) := by
    intro window
    have hwindow := hle window
    exact sourceCount_eq_ok_some_iff.mpr ⟨by omega, hwindow, rfl⟩
  refine ⟨⟨some values.w5m, some values.w15m, some values.w60m⟩, ?_, rfl⟩
  simp only [sourceCounts, bind_eq_ok_iff, pure_eq_ok_iff]
  exact ⟨_, hread .w5m, _, hread .w15m, _, hread .w60m, rfl⟩

end counts

section ranges

variable {oldest newest : Option Timestamp} {count : Int} {start asOf : Timestamp} {range : TimestampRange}

/-- The range of an accepted row is what the row names. -/
theorem timestampRange_eq_ok (hrange : timestampRange oldest newest count start asOf = .ok range) :
    range.oldest = oldest ∧ range.newest = newest ∧ (count = 0 ↔ oldest = none) := by
  unfold timestampRange at hrange
  split at hrange
  · rename_i hcount
    rw [throwIf_bind_eq_ok_iff, pure_eq_ok_iff] at hrange
    obtain ⟨hnone, rfl⟩ := hrange
    obtain ⟨holdest, hnewest⟩ := not_or.mp hnone
    rw [not_not] at holdest hnewest
    exact ⟨holdest.symm, hnewest.symm, iff_of_true hcount holdest⟩
  · rename_i hcount
    split at hrange
    · rw [throwIf_bind_eq_ok_iff, pure_eq_ok_iff] at hrange
      obtain ⟨-, rfl⟩ := hrange
      refine ⟨rfl, rfl, ?_⟩
      exact iff_of_false hcount (Option.some_ne_none _)
    · cases hrange

end ranges

section parsers

variable {starts : Windowed Timestamp} {asOf : Timestamp}

/-- The age of an instant, in seconds. -/
def ageSeconds (asOf created : Timestamp) : Int :=
  (asOf.ms - created.ms) / 1000

/-- An accepted row of deliveries is read as it is. -/
theorem parseCurrentSnapshot_eq_some {row : CurrentProjection} {current : LogoutDeliveryCurrentSnapshot}
    (hparse : parseCurrentSnapshot row asOf = .ok (some current)) :
    current.currentUnresolved = row.currentUnresolved ∧ current.currentDead = row.currentDead ∧
      current.oldestUnresolvedAgeSeconds = row.oldestUnresolvedCreatedAt.map (ageSeconds asOf) ∧
      current.currentUnresolved ≤ MAX_EVIDENCE_COUNT ∧ current.currentDead ≤ MAX_EVIDENCE_COUNT := by
  simp only [parseCurrentSnapshot, bind_eq_ok_iff] at hparse
  obtain ⟨unresolved, hunresolved, dead, hdead, invalid, hinvalid, hrest⟩ := hparse
  match unresolved, dead, invalid with
  | some unresolved, some dead, some invalid =>
    obtain ⟨-, hunresolvedLe, rfl⟩ := sourceCount_eq_ok_some_iff.mp hunresolved
    obtain ⟨-, hdeadLe, rfl⟩ := sourceCount_eq_ok_some_iff.mp hdead
    rw [throwIf_bind_eq_ok_iff, bind_eq_ok_iff] at hrest
    obtain ⟨-, range, hrange, hresult⟩ := hrest
    obtain ⟨holdest, -, -⟩ := timestampRange_eq_ok hrange
    cases hcolumn : row.oldestUnresolvedCreatedAt with
    | none =>
      rw [hcolumn] at holdest
      rw [holdest, pure_eq_ok_iff, Option.some.injEq] at hresult
      subst hresult
      exact ⟨rfl, rfl, rfl, hunresolvedLe, hdeadLe⟩
    | some created =>
      rw [hcolumn] at holdest
      rw [holdest] at hresult
      simp only at hresult
      split at hresult
      · rw [pure_eq_ok_iff] at hresult
        cases hresult
      · rw [pure_eq_ok_iff, Option.some.injEq] at hresult
        subst hresult
        exact ⟨rfl, rfl, rfl, hunresolvedLe, hdeadLe⟩
  | none, _, _ => cases hrest
  | some _, none, _ => cases hrest
  | some _, some _, none => cases hrest

theorem parseDeliveryWindows_eq_some {row : DeliveryWindowProjection} {windows : ParsedDeliveryWindows}
    (hparse : parseDeliveryWindows row starts asOf = .ok (some windows)) (window : AlertWindowKey) :
    windows.eligible.at window = row.eligible.at window ∧ windows.unresolved.at window = row.unresolved.at window ∧
      windows.eligible.at window ≤ MAX_RATIO_COUNT ∧ windows.unresolved.at window ≤ MAX_RATIO_COUNT := by
  simp only [parseDeliveryWindows, bind_eq_ok_iff] at hparse
  obtain ⟨eligibleRead, heligible, unresolvedRead, hunresolved, invalid, -, hrest⟩ := hparse
  match heligibleKnown : knownCounts eligibleRead, hunresolvedKnown : knownCounts unresolvedRead, invalid with
  | some eligible, some unresolved, some invalid =>
    rw [heligibleKnown, hunresolvedKnown] at hrest
    rw [throwIf_bind_eq_ok_iff, bind_eq_ok_iff] at hrest
    obtain ⟨-, _, -, hresult⟩ := hrest
    rw [throwIf_bind_eq_ok_iff, pure_eq_ok_iff, Option.some.injEq] at hresult
    obtain ⟨-, rfl⟩ := hresult
    obtain ⟨heq, hle⟩ := sourceCounts_eq_ok_some heligible heligibleKnown
    obtain ⟨hunresolvedEq, hunresolvedLe⟩ := sourceCounts_eq_ok_some hunresolved hunresolvedKnown
    exact ⟨heq window, hunresolvedEq window, hle window, hunresolvedLe window⟩
  | none, _, _ =>
    rw [heligibleKnown] at hrest
    cases hrest
  | some _, none, _ =>
    rw [heligibleKnown, hunresolvedKnown] at hrest
    cases hrest
  | some _, some _, none =>
    rw [heligibleKnown, hunresolvedKnown] at hrest
    cases hrest

theorem parseLeaseWindows_eq_some {row : LeaseWindowProjection} {counts : Windowed Int}
    (hparse : parseLeaseWindows row starts asOf = .ok (some counts)) (window : AlertWindowKey) :
    counts.at window = row.leaseExpired.at window ∧ counts.at window ≤ MAX_EVIDENCE_COUNT := by
  simp only [parseLeaseWindows, bind_eq_ok_iff] at hparse
  obtain ⟨read, hread, invalid, -, hrest⟩ := hparse
  match hknown : knownCounts read, invalid with
  | some known, some invalid =>
    rw [hknown] at hrest
    rw [throwIf_bind_eq_ok_iff, bind_eq_ok_iff] at hrest
    obtain ⟨-, _, -, hresult⟩ := hrest
    rw [throwIf_bind_eq_ok_iff, pure_eq_ok_iff, Option.some.injEq] at hresult
    obtain ⟨-, rfl⟩ := hresult
    obtain ⟨heq, hle⟩ := sourceCounts_eq_ok_some hread hknown
    exact ⟨heq window, hle window⟩
  | none, _ =>
    rw [hknown] at hrest
    cases hrest
  | some _, none =>
    rw [hknown] at hrest
    cases hrest

end parsers

section clients

variable {R T : Type} {parser : R → Fallible (Option T)}

/-- The entries of an accepted map stand for the rows, one each. -/
theorem parseClientEntries_eq_some {rows : List (Text × R)} {before parsed : Dictionary Text T}
    (hparse : parseClientEntries parser rows before = .ok (some parsed)) :
    ∃ entries, parsed.entries = before.entries ++ entries ∧
      List.Forall₂ (fun row entry => row.1 = entry.1 ∧ parser row.2 = .ok (some entry.2)) rows entries := by
  induction rows generalizing before with
  | nil =>
    simp only [parseClientEntries, Except.ok.injEq, Option.some.injEq] at hparse
    subst hparse
    exact ⟨[], (List.append_nil _).symm, .nil⟩
  | cons row rows ih =>
    obtain ⟨value, row⟩ := row
    rw [parseClientEntries, requiredRawIdentity, bind_eq_ok_iff] at hparse
    obtain ⟨clientId, hidentity, hparse⟩ := hparse
    rw [throwIf_bind_eq_ok_iff, pure_eq_ok_iff] at hidentity
    obtain ⟨-, rfl⟩ := hidentity
    rw [throwIf_bind_eq_ok_iff, bind_eq_ok_iff] at hparse
    obtain ⟨hfresh, read, hread, hrest⟩ := hparse
    cases read with
    | none => cases hrest
    | some metrics =>
      obtain ⟨entries, hentries, hrows⟩ := ih hrest
      refine ⟨(value, metrics) :: entries, ?_, .cons ⟨rfl, hread⟩ hrows⟩
      rw [hentries, Dictionary.entries_set_of_not_mem hfresh, List.append_assoc, List.singleton_append]

theorem parseClientRows_eq_some {rows : List (Text × R)} {parsed : Dictionary Text T}
    (hparse : parseClientRows rows parser = .ok (some parsed)) :
    rows.length ≤ MAX_DIMENSION_GROUPS ∧
      List.Forall₂ (fun row entry => row.1 = entry.1 ∧ parser row.2 = .ok (some entry.2)) rows parsed.entries := by
  unfold parseClientRows at hparse
  split at hparse
  · cases hparse
  · rename_i hlimit
    obtain ⟨entries, hentries, hrows⟩ := parseClientEntries_eq_some hparse
    rw [Dictionary.entries_empty, List.nil_append] at hentries
    rw [hentries]
    exact ⟨by omega, hrows⟩

/-- The keys of an accepted map are the clients of the rows. -/
theorem keys_of_parseClientRows {rows : List (Text × R)} {parsed : Dictionary Text T}
    (hparse : parseClientRows rows parser = .ok (some parsed)) : parsed.keys = rows.map Prod.fst :=
  (table.map_eq_of_related (fun _ _ hrow => hrow.1) (parseClientRows_eq_some hparse).2).symm

theorem row_of_get {rows : List (Text × R)} {parsed : Dictionary Text T} {clientId : Text} {metrics : T}
    (hparse : parseClientRows rows parser = .ok (some parsed)) (hget : parsed.get clientId = some metrics) :
    ∃ row, parser row = .ok (some metrics) := by
  obtain ⟨row, -, -, hrow⟩ := table.related_of_mem_right (parseClientRows_eq_some hparse).2
    (Dictionary.get_eq_some_iff.mp hget)
  exact ⟨row.2, hrow⟩

theorem identity_of_parseClientEntries {rows : List (Text × R)} {before parsed : Dictionary Text T}
    (hparse : parseClientEntries parser rows before = .ok (some parsed)) :
    ∀ row ∈ rows, 1 ≤ row.1.length ∧ row.1.length ≤ 512 := by
  induction rows generalizing before with
  | nil => exact fun _ hrow => by cases hrow
  | cons row rows ih =>
    obtain ⟨value, row⟩ := row
    rw [parseClientEntries, requiredRawIdentity, bind_eq_ok_iff] at hparse
    obtain ⟨clientId, hidentity, hparse⟩ := hparse
    rw [throwIf_bind_eq_ok_iff] at hidentity
    rw [throwIf_bind_eq_ok_iff, bind_eq_ok_iff] at hparse
    obtain ⟨-, read, -, hrest⟩ := hparse
    cases read with
    | none => cases hrest
    | some metrics =>
      refine List.forall_mem_cons.mpr ⟨?_, ih hrest⟩
      simp only
      omega

/-- The clients of accepted rows have identities that references are derived from. -/
theorem identity_of_keys {rows : List (Text × R)} {parsed : Dictionary Text T} {clientId : Text}
    (hparse : parseClientRows rows parser = .ok (some parsed)) (hkey : clientId ∈ parsed.keys) :
    1 ≤ clientId.length ∧ clientId.length ≤ 512 := by
  rw [keys_of_parseClientRows hparse] at hkey
  obtain ⟨row, hrow, rfl⟩ := List.mem_map.mp hkey
  unfold parseClientRows at hparse
  split at hparse
  · cases hparse
  · exact identity_of_parseClientEntries hparse row hrow

/-- A figure of the entries adds up to that of the rows they stand for. -/
theorem sum_of_forall₂ {rows : List (Text × R)} {entries : List (Text × T)} {amount : T → Int} {count : R → Int}
    (hrows : List.Forall₂ (fun row entry => row.1 = entry.1 ∧ parser row.2 = .ok (some entry.2)) rows entries)
    (hamount : ∀ row metrics, parser row = .ok (some metrics) → amount metrics = count row) :
    ((entries.map Prod.snd).map amount).sum = (rows.map fun row => count row.2).sum := by
  induction hrows with
  | nil => rfl
  | cons hhead _ ih =>
    rw [List.map_cons, List.map_cons, List.sum_cons, List.map_cons, List.sum_cons, ih, hamount _ _ hhead.2]

/-- A parser of a client's row reads what the parser of a row reads. -/
theorem nonempty_eq_some {count : T → Int} {row : R} {metrics : T}
    (hparse : nonempty parser count row = .ok (some metrics)) :
    parser row = .ok (some metrics) ∧ count metrics ≠ 0 := by
  rw [nonempty, bind_eq_ok_iff] at hparse
  obtain ⟨read, hread, hparse⟩ := hparse
  rw [throwIf_bind_eq_ok_iff, pure_eq_ok_iff] at hparse
  obtain ⟨hcount, rfl⟩ := hparse
  refine ⟨hread, ?_⟩
  intro hzero
  exact hcount ⟨metrics, rfl, hzero⟩

end clients

section built

/-- What the parser of observations demands of a snapshot. -/
structure CurrentValid (current : LogoutDeliveryCurrentSnapshot) : Prop where
  dead : 0 ≤ current.currentDead ∧ current.currentDead ≤ MAX_EVIDENCE_VALUE
  unresolved : 0 ≤ current.currentUnresolved ∧ current.currentUnresolved ≤ MAX_EVIDENCE_VALUE
  age : ∀ age ∈ current.oldestUnresolvedAgeSeconds, 0 ≤ age ∧ age ≤ MAX_EVIDENCE_VALUE
  within : current.currentDead ≤ current.currentUnresolved
  agree : current.currentUnresolved = 0 ↔ current.oldestUnresolvedAgeSeconds = none

/-- What the parser of observations demands of the metrics of a window. -/
structure MetricsValid (metrics : LogoutDeliveryWindowMetrics) : Prop where
  eligible : 0 ≤ metrics.eligible ∧ metrics.eligible ≤ MAX_RATIO_FIELD
  leaseExpired : 0 ≤ metrics.leaseExpired ∧ metrics.leaseExpired ≤ MAX_EVIDENCE_VALUE
  unresolved : 0 ≤ metrics.unresolved ∧ metrics.unresolved ≤ MAX_RATIO_FIELD
  within : metrics.unresolved ≤ metrics.eligible

/-- An accepted row of deliveries is a snapshot that the parser of observations accepts. -/
theorem parseCurrentSnapshot_valid {row : CurrentProjection} {asOf : Timestamp}
    {current : LogoutDeliveryCurrentSnapshot} (hparse : parseCurrentSnapshot row asOf = .ok (some current)) :
    CurrentValid current := by
  simp only [parseCurrentSnapshot, bind_eq_ok_iff] at hparse
  obtain ⟨unresolved, hunresolved, dead, hdead, invalid, -, hrest⟩ := hparse
  match unresolved, dead, invalid with
  | some unresolved, some dead, some invalid =>
    obtain ⟨-, hunresolvedLe, rfl⟩ := sourceCount_eq_ok_some_iff.mp hunresolved
    obtain ⟨-, hdeadLe, rfl⟩ := sourceCount_eq_ok_some_iff.mp hdead
    rw [throwIf_bind_eq_ok_iff, bind_eq_ok_iff] at hrest
    obtain ⟨hwithin, range, hrange, hresult⟩ := hrest
    obtain ⟨holdest, -, hcount⟩ := timestampRange_eq_ok hrange
    have hdeadValid : 0 ≤ (row.currentDead : Int) ∧ (row.currentDead : Int) ≤ MAX_EVIDENCE_VALUE :=
      ⟨Int.natCast_nonneg _, hdeadLe⟩
    have hunresolvedValid : 0 ≤ (row.currentUnresolved : Int) ∧ (row.currentUnresolved : Int) ≤ MAX_EVIDENCE_VALUE :=
      ⟨Int.natCast_nonneg _, hunresolvedLe⟩
    rw [← holdest] at hcount
    cases hfirst : range.oldest with
    | none =>
      rw [hfirst] at hcount hresult
      rw [pure_eq_ok_iff, Option.some.injEq] at hresult
      subst hresult
      refine ⟨hdeadValid, hunresolvedValid, ?_, by simp only; omega, iff_of_true (hcount.mpr rfl) rfl⟩
      intro age hage
      cases hage
    | some first =>
      rw [hfirst] at hcount hresult
      simp only at hresult
      split at hresult
      · rw [pure_eq_ok_iff] at hresult
        cases hresult
      · rename_i hage
        rw [pure_eq_ok_iff, Option.some.injEq] at hresult
        subst hresult
        refine ⟨hdeadValid, hunresolvedValid, ?_, by simp only; omega, ?_⟩
        · rintro age ⟨rfl⟩
          have hmaximum : MAX_EVIDENCE_COUNT = MAX_EVIDENCE_VALUE := rfl
          omega
        · exact iff_of_false (fun hzero => Option.some_ne_none _ (hcount.mp hzero)) (Option.some_ne_none _)
  | none, _, _ => cases hrest
  | some _, none, _ => cases hrest
  | some _, some _, none => cases hrest

theorem parseDeliveryWindows_nested {row : DeliveryWindowProjection} {starts : Windowed Timestamp} {asOf : Timestamp}
    {windows : ParsedDeliveryWindows} (hparse : parseDeliveryWindows row starts asOf = .ok (some windows)) :
    nondecreasing windows.eligible ∧ nondecreasing windows.unresolved ∧
      ∀ window, windows.unresolved.at window ≤ windows.eligible.at window := by
  simp only [parseDeliveryWindows, bind_eq_ok_iff] at hparse
  obtain ⟨eligibleRead, -, unresolvedRead, -, invalid, -, hrest⟩ := hparse
  match heligible : knownCounts eligibleRead, hunresolved : knownCounts unresolvedRead, invalid with
  | some eligible, some unresolved, some invalid =>
    rw [heligible, hunresolved] at hrest
    rw [throwIf_bind_eq_ok_iff, bind_eq_ok_iff] at hrest
    obtain ⟨hchecked, _, -, hresult⟩ := hrest
    rw [throwIf_bind_eq_ok_iff, pure_eq_ok_iff, Option.some.injEq] at hresult
    obtain ⟨-, rfl⟩ := hresult
    obtain ⟨-, hchecked⟩ := not_or.mp hchecked
    obtain ⟨heligibleNested, hchecked⟩ := not_or.mp hchecked
    obtain ⟨hunresolvedNested, hwithin⟩ := not_or.mp hchecked
    refine ⟨not_not.mp heligibleNested, not_not.mp hunresolvedNested, ?_⟩
    intro window
    by_contra hexceeds
    exact hwithin ⟨window, by cases window <;> decide, not_le.mp hexceeds⟩
  | none, _, _ =>
    rw [heligible] at hrest
    cases hrest
  | some _, none, _ =>
    rw [heligible, hunresolved] at hrest
    cases hrest
  | some _, some _, none =>
    rw [heligible, hunresolved] at hrest
    cases hrest

theorem parseLeaseWindows_nested {row : LeaseWindowProjection} {starts : Windowed Timestamp} {asOf : Timestamp}
    {counts : Windowed Int} (hparse : parseLeaseWindows row starts asOf = .ok (some counts)) :
    nondecreasing counts := by
  simp only [parseLeaseWindows, bind_eq_ok_iff] at hparse
  obtain ⟨read, -, invalid, -, hrest⟩ := hparse
  match hknown : knownCounts read, invalid with
  | some known, some invalid =>
    rw [hknown] at hrest
    rw [throwIf_bind_eq_ok_iff, bind_eq_ok_iff] at hrest
    obtain ⟨hchecked, _, -, hresult⟩ := hrest
    rw [throwIf_bind_eq_ok_iff, pure_eq_ok_iff, Option.some.injEq] at hresult
    obtain ⟨-, rfl⟩ := hresult
    exact not_not.mp (not_or.mp hchecked).2
  | none, _ =>
    rw [hknown] at hrest
    cases hrest
  | some _, none =>
    rw [hknown] at hrest
    cases hrest

theorem parseLogoutCurrentSnapshot_eq_ok_iff {record current : LogoutDeliveryCurrentSnapshot} :
    parseLogoutCurrentSnapshot record = .ok current ↔ CurrentValid record ∧ current = record := by
  obtain ⟨dead, unresolved, age⟩ := record
  rw [parseLogoutCurrentSnapshot]
  simp only [bind_eq_ok_iff, integer_eq_ok_iff, Option.some.injEq, nullableInteger_eq_ok_iff, throwIf_eq_ok_iff,
    exists_const, pure_eq_ok_iff]
  constructor
  · rintro ⟨_, ⟨rfl, hdead⟩, _, ⟨rfl, hunresolved⟩, _, ⟨hbounds, rfl⟩, hwithin, hagree, rfl⟩
    rw [not_not] at hagree
    exact ⟨⟨hdead, hunresolved, hbounds, not_lt.mp hwithin, hagree⟩, rfl⟩
  · rintro ⟨hvalid, rfl⟩
    refine ⟨dead, ⟨rfl, hvalid.dead⟩, unresolved, ⟨rfl, hvalid.unresolved⟩, age, ⟨hvalid.age, rfl⟩, ?_, ?_, rfl⟩
    · have := hvalid.within
      simp only at this
      omega
    · rw [not_not]
      exact hvalid.agree

theorem parseLogoutMetrics_eq_ok_iff {record metrics : LogoutDeliveryWindowMetrics} :
    parseLogoutMetrics record = .ok metrics ↔ MetricsValid record ∧ metrics = record := by
  obtain ⟨eligible, leaseExpired, unresolved⟩ := record
  rw [parseLogoutMetrics]
  simp only [bind_eq_ok_iff, integer_eq_ok_iff, Option.some.injEq, throwIf_eq_ok_iff, exists_const, pure_eq_ok_iff]
  constructor
  · rintro ⟨_, ⟨rfl, heligible⟩, _, ⟨rfl, hlease⟩, _, ⟨rfl, hunresolved⟩, hwithin, rfl⟩
    exact ⟨⟨heligible, hlease, hunresolved, not_lt.mp hwithin⟩, rfl⟩
  · rintro ⟨hvalid, rfl⟩
    refine ⟨eligible, ⟨rfl, hvalid.eligible⟩, leaseExpired, ⟨rfl, hvalid.leaseExpired⟩, unresolved,
      ⟨rfl, hvalid.unresolved⟩, ?_, rfl⟩
    have := hvalid.within
    simp only at this
    omega

/-- The dimensions that the rule of the source allows. -/
def LOGOUT_DIMENSIONS : List AlertDimensionKind := (ALERT_RULE_DEFINITIONS .logoutDeliveryHealth).dimensions

/-- The counts of every window contain those of the shorter ones. -/
structure Nested (windows : AlertWindowKey → LogoutDeliveryWindowMetrics) : Prop where
  eligible : (windows .w5m).eligible ≤ (windows .w15m).eligible ∧ (windows .w15m).eligible ≤ (windows .w60m).eligible
  leaseExpired : (windows .w5m).leaseExpired ≤ (windows .w15m).leaseExpired ∧
    (windows .w15m).leaseExpired ≤ (windows .w60m).leaseExpired
  unresolved : (windows .w5m).unresolved ≤ (windows .w15m).unresolved ∧
    (windows .w15m).unresolved ≤ (windows .w60m).unresolved

variable {asOf : Timestamp} {dimension : AlertDimension} {current : LogoutDeliveryCurrentSnapshot}
  {delivery : ParsedDeliveryWindows} {leaseExpired : Windowed Int} {observation : LogoutDeliveryAlertObservation}

theorem parseMeasures_logout_eq_ok_iff {windows : Windowed LogoutDeliveryWindowMetrics}
    {measures : AlertMeasures QueueDepthSnapshot} :
    parseMeasures .logoutDeliveryHealth (.logout current windows) = .ok measures ↔
      CurrentValid current ∧ (∀ window, MetricsValid (windows.at window)) ∧ Nested windows.at ∧
        measures = .logout current windows := by
  simp only [parseMeasures, parseRuleMeasures, bind_eq_ok_iff, pure_eq_ok_iff, parseLogoutCurrentSnapshot_eq_ok_iff,
    parseWindows_eq_ok_iff parseLogoutMetrics_eq_ok_iff]
  constructor
  · rintro ⟨_, ⟨_, ⟨hcurrent, rfl⟩, _, ⟨hmetrics, rfl⟩, rfl⟩, _, hnested, rfl⟩
    simp only [validateNestedWindows, fieldEntries, Windowed.entries, List.map_cons, List.map_nil, bind_eq_ok_iff,
      nondecreasing_three, exists_const] at hnested
    exact ⟨hcurrent, hmetrics, ⟨hnested.1, hnested.2.1, hnested.2.2⟩, rfl⟩
  · rintro ⟨hcurrent, hmetrics, hnested, rfl⟩
    refine ⟨_, ⟨_, ⟨hcurrent, rfl⟩, _, ⟨hmetrics, rfl⟩, rfl⟩, (), ?_, rfl⟩
    simp only [validateNestedWindows, fieldEntries, Windowed.entries, List.map_cons, List.map_nil, bind_eq_ok_iff,
      nondecreasing_three, exists_const]
    exact ⟨hnested.eligible, hnested.leaseExpired, hnested.unresolved⟩

/-- An observation is built from figures that belong together, and has them. -/
theorem buildObservation_eq_ok_iff :
    buildObservation asOf dimension current delivery leaseExpired = .ok observation ↔
      dimension.Accepted LOGOUT_DIMENSIONS ∧ CurrentValid current ∧
        (∀ window, MetricsValid (windowMetrics delivery leaseExpired window)) ∧
        Nested (windowMetrics delivery leaseExpired) ∧
        observation = ⟨asOf, dimension, current, ⟨windowMetrics delivery leaseExpired .w5m,
          windowMetrics delivery leaseExpired .w15m, windowMetrics delivery leaseExpired .w60m⟩⟩ := by
  have hat : Windowed.at ⟨windowMetrics delivery leaseExpired .w5m, windowMetrics delivery leaseExpired .w15m,
      windowMetrics delivery leaseExpired .w60m⟩ = windowMetrics delivery leaseExpired := by
    funext window
    cases window <;> rfl
  rw [buildObservation, asLogoutObservation]
  constructor
  · intro hbuild
    split at hbuild
    · rename_i hparse
      simp only [parseAlertObservation, bind_eq_ok_iff, pure_eq_ok_iff, parseAlertDimension_eq_ok_iff,
        parseMeasures_logout_eq_ok_iff] at hparse
      obtain ⟨_, ⟨hdimension, rfl⟩, _, ⟨hcurrent, hmetrics, hnested, rfl⟩, hsame⟩ := hparse
      cases hsame
      cases hbuild
      rw [hat] at hmetrics hnested
      exact ⟨hdimension, hcurrent, hmetrics, hnested, rfl⟩
    · cases hbuild
  · rintro ⟨hdimension, hcurrent, hmetrics, hnested, rfl⟩
    have hparse : parseAlertObservation
        { asOf, dimension, ruleId := .logoutDeliveryHealth
          measures := .logout current ⟨windowMetrics delivery leaseExpired .w5m,
            windowMetrics delivery leaseExpired .w15m, windowMetrics delivery leaseExpired .w60m⟩ } =
        .ok ⟨asOf, dimension, .logoutDeliveryHealth, .logout current ⟨windowMetrics delivery leaseExpired .w5m,
          windowMetrics delivery leaseExpired .w15m, windowMetrics delivery leaseExpired .w60m⟩⟩ := by
      simp only [parseAlertObservation, bind_eq_ok_iff, pure_eq_ok_iff, parseAlertDimension_eq_ok_iff,
        parseMeasures_logout_eq_ok_iff, hat]
      exact ⟨_, ⟨hdimension, rfl⟩, _, ⟨hcurrent, hmetrics, hnested, rfl⟩, rfl⟩
    simp only [hparse]

theorem buildObservation_of_valid (asOf : Timestamp) (hdimension : dimension.Accepted LOGOUT_DIMENSIONS)
    (hcurrent : CurrentValid current) (hmetrics : ∀ window, MetricsValid (windowMetrics delivery leaseExpired window))
    (hnested : Nested (windowMetrics delivery leaseExpired)) :
    ∃ observation, buildObservation asOf dimension current delivery leaseExpired = .ok observation :=
  ⟨_, buildObservation_eq_ok_iff.mpr ⟨hdimension, hcurrent, hmetrics, hnested, rfl⟩⟩

end built

end pgid.alert.logout
