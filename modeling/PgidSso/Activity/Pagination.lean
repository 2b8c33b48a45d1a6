import PgidSso.Activity.Feed
import Mathlib.Data.List.Nodup

/-! The pages of the feed visit every event once, and the cursor is read back as it was
written. -/

namespace pgid.activity

section cursor

theorem byteOf?_returns {code : UInt16} (hcode : code < 0x100) :
    ∃ byte, byteOf? code = some byte ∧ UInt16.ofNat byte.toNat = code := by
  have hbound : code.toNat < 0x100 := by
    rw [UInt16.lt_iff_toNat_lt] at hcode
    exact hcode
  have hbyte : (UInt8.ofNat code.toNat).toNat = code.toNat := by
    rw [UInt8.toNat_ofNat']
    omega
  exact ⟨UInt8.ofNat code.toNat, if_pos hcode, by rw [hbyte, UInt16.ofNat_toNat]⟩

/-- A text of bytes has them and is read back from them. -/
theorem latin1?_returns {text : Text} (htext : ∀ code ∈ text, code < 0x100) :
    ∃ bytes, latin1? text = some bytes ∧ latin1 bytes = text ∧ bytes.length = text.length := by
  induction text with
  | nil => exact ⟨[], rfl, rfl, rfl⟩
  | cons code rest ih =>
    obtain ⟨hcode, hrest⟩ := List.forall_mem_cons.mp htext
    obtain ⟨byte, hbyte, hread⟩ := byteOf?_returns hcode
    obtain ⟨bytes, hbytes, hlatin1, hlength⟩ := ih hrest
    rw [latin1?] at hbytes
    refine ⟨byte :: bytes, ?_, ?_, ?_⟩
    · rw [latin1?, List.mapM_cons, hbyte, hbytes]
      rfl
    · rw [latin1, List.map_cons, hread]
      exact congrArg _ hlatin1
    · rw [List.length_cons, List.length_cons, hlength]

theorem sextet_isCursorCode (value : Nat) : isCursorCode (base64.sextet value) = true := by
  have hall : ∀ index < 64, isCursorCode (base64.alphabet.getD index 0) = true := by
    set_option maxRecDepth 20000 in decide
  exact hall (value % 64) (Nat.mod_lt value (by decide))

theorem encode_isCursorCode (bytes : List UInt8) : (base64.encode bytes).all isCursorCode = true := by
  induction bytes using base64.encode.induct with
  | case1 first second third rest ih =>
    simp only [base64.encode, List.all_cons, sextet_isCursorCode, ih, Bool.and_self]
  | case2 first second => simp only [base64.encode, List.all_cons, sextet_isCursorCode, List.all_nil, Bool.and_self]
  | case3 first => simp only [base64.encode, List.all_cons, sextet_isCursorCode, List.all_nil, Bool.and_self]
  | case4 => rfl

/-- A cursor is written and read back, when the time has no separator, neither part is
empty and both are short. -/
theorem decodeActivityCursor_encode {occurredAt id : Text} (htime : ∀ code ∈ occurredAt, code ≠ Text.unit '|')
    (hnonempty : occurredAt ≠ [] ∧ id ≠ []) (hlength : occurredAt.length + id.length ≤ 190)
    (hbytes : ∀ code ∈ occurredAt ++ Text.unit '|' :: id, code < 0x100) :
    ∃ cursor, encodeActivityCursor occurredAt id = some cursor ∧
      decodeActivityCursor cursor = some ⟨occurredAt, id⟩ := by
  obtain ⟨bytes, hencoded, hlatin1, hcount⟩ := latin1?_returns hbytes
  rw [List.length_append, List.length_cons] at hcount
  refine ⟨base64.encode bytes, by rw [encodeActivityCursor, hencoded, Option.map_some], ?_⟩
  have hshort : (base64.encode bytes).length ≤ 256 := by
    rw [base64.length_encode, base64.encodedLength]
    omega
  have hsome : base64.encode bytes ≠ [] := by
    intro hempty
    have hzero := congrArg List.length hempty
    rw [base64.length_encode, base64.encodedLength, List.length_nil] at hzero
    omega
  have hseparator : (occurredAt ++ Text.unit '|' :: id).findIdx? (fun code => code = Text.unit '|') =
      some occurredAt.length := by
    rw [List.findIdx?_append, List.findIdx?_eq_none_iff.mpr fun code hcode => by simpa using htime code hcode]
    simp [List.findIdx?_cons]
  obtain ⟨hoccurred, hid⟩ := hnonempty
  obtain ⟨first, rest, rfl⟩ := List.exists_cons_of_ne_nil hoccurred
  have hrejected : ¬ (256 < (base64.encode bytes).length ∨ base64.encode bytes = [] ∨
      ¬ (base64.encode bytes).all isCursorCode = true) := by
    rw [encode_isCursorCode]
    simp [hshort, hsome]
  rw [decodeActivityCursor, if_neg hrejected, base64.decode_encode, Option.map_some, hlatin1]
  simp only [hseparator, List.length_cons]
  rw [List.take_left' (by simp), List.drop_append]
  simp [hid]

/-- Characters of the ids and the times are ASCII and no separator. -/
def IsPlain (code : UInt16) : Prop :=
  code < 0x80 ∧ code ≠ Text.unit '|'

theorem isDigit_plain {code : UInt16} (hdigit : Text.isDigit code = true) : IsPlain code := by
  simp only [Text.isDigit, decide_eq_true_eq, UInt16.le_iff_toNat_le] at hdigit
  have hnine : (Text.unit '9').toNat = 57 := by decide
  have hbar : (Text.unit '|').toNat = 124 := by decide
  have hlimit : (0x80 : UInt16).toNat = 128 := rfl
  rw [IsPlain, UInt16.lt_iff_toNat_lt, ne_eq, ← UInt16.toNat_inj]
  omega

theorem isHex_plain {code : UInt16} (hhex : Text.isHex code = true) : IsPlain code := by
  simp only [Text.isHex, Bool.or_eq_true, decide_eq_true_eq, UInt16.le_iff_toNat_le] at hhex
  obtain hdigit | hletter := hhex
  · exact isDigit_plain hdigit
  · have hlast : (Text.unit 'f').toNat = 102 := by decide
    have hbar : (Text.unit '|').toNat = 124 := by decide
    have hlimit : (0x80 : UInt16).toNat = 128 := rfl
    rw [IsPlain, UInt16.lt_iff_toNat_lt, ne_eq, ← UInt16.toNat_inj]
    omega

theorem exactly_plain {char : Char} {code : UInt16} (hexactly : Text.exactly char code = true)
    (hchar : IsPlain (Text.unit char)) : IsPlain code := by
  rw [Text.exactly, decide_eq_true_eq] at hexactly
  rwa [hexactly]

theorem canonicalTime_plain {time : Text} (htime : Text.fits canonicalTime time = true) :
    ∀ code ∈ time, IsPlain code := by
  refine Text.forall_of_fits (P := IsPlain) ?_ htime
  intro first hfirst code hcode
  have hclass : first = Text.isDigit ∨ ∃ char ∈ ['-', 'T', ':', '.', 'Z'], first = Text.exactly char := by
    simp only [canonicalTime, List.mem_append, List.mem_replicate, List.mem_cons, List.not_mem_nil, or_false] at hfirst
    simp only [List.mem_cons, List.not_mem_nil, or_false, exists_eq_or_imp, exists_eq_left]
    tauto
  obtain rfl | ⟨char, hchar, rfl⟩ := hclass
  · exact isDigit_plain hcode
  · have hplain : ['-', 'T', ':', '.', 'Z'].all fun char => Text.unit char < 0x80 ∧ Text.unit char ≠ Text.unit '|' := by decide
    have hunit : Text.unit char < 0x80 ∧ Text.unit char ≠ Text.unit '|' :=
      of_decide_eq_true (List.all_eq_true.mp hplain char hchar)
    exact exactly_plain hcode hunit

theorem randomUuid_plain {id : Text} (hid : Text.fits randomUuid id = true) : ∀ code ∈ id, IsPlain code := by
  refine Text.forall_of_fits (P := IsPlain) ?_ hid
  intro first hfirst code hcode
  have hclass : first = Text.isHex ∨ ∃ char ∈ ['-', '4'], first = Text.exactly char := by
    simp only [randomUuid, List.mem_append, List.mem_replicate, List.mem_cons, List.not_mem_nil,
      or_false] at hfirst
    simp only [List.mem_cons, List.not_mem_nil, or_false, exists_eq_or_imp, exists_eq_left]
    tauto
  obtain rfl | ⟨char, hchar, rfl⟩ := hclass
  · exact isHex_plain hcode
  · have hplain : ['-', '4'].all fun char => Text.unit char < 0x80 ∧ Text.unit char ≠ Text.unit '|' := by decide
    have hunit : Text.unit char < 0x80 ∧ Text.unit char ≠ Text.unit '|' :=
      of_decide_eq_true (List.all_eq_true.mp hplain char hchar)
    exact exactly_plain hcode hunit

/-- The cursor of an event is read back as its place. -/
theorem AuditEvent.cursor_returns (event : AuditEvent) :
    ∃ cursor, encodeActivityCursor event.occurred_at event.id = some cursor ∧
      decodeActivityCursor cursor = some event.position := by
  have htime := canonicalTime_plain event.canonical
  have hid := randomUuid_plain event.randomId
  have htimeLength : event.occurred_at.length = 24 := Text.length_of_fits event.canonical
  have hidLength : event.id.length = 36 := Text.length_of_fits event.randomId
  have hbytes : ∀ code ∈ event.occurred_at ++ Text.unit '|' :: event.id, code < 0x100 := by
    have hall : ∀ code ∈ event.occurred_at ++ Text.unit '|' :: event.id, code < 0x80 := by
      rw [List.forall_mem_append, List.forall_mem_cons]
      exact ⟨fun code hcode => (htime code hcode).1, by decide, fun code hcode => (hid code hcode).1⟩
    intro code hcode
    exact UInt16.lt_trans (hall code hcode) (by decide)
  apply decodeActivityCursor_encode (fun code hcode => (htime code hcode).2) _ (by omega) hbytes
  constructor
  · rintro hempty
    rw [hempty] at htimeLength
    cases htimeLength
  · rintro hempty
    rw [hempty] at hidLength
    cases hidLength

end cursor

section order

/-- The newest event is listed first; among events of one time the greatest id. -/
def newestFirst (left right : Position) : Bool :=
  less right.occurredAt left.occurredAt ||
    (left.occurredAt = right.occurredAt && Text.precedes right.id left.id)

theorem less_iff {left right : Text} : less left right = true ↔ Text.precedes left right = true ∧ left ≠ right := by
  rw [less, Bool.not_eq_true']
  constructor
  · intro hnot
    have htotal := Text.precedes_total left right
    rw [hnot, Bool.or_false] at htotal
    refine ⟨htotal, ?_⟩
    rintro rfl
    rw [hnot] at htotal
    cases htotal
  · rintro ⟨hprecedes, hne⟩
    cases hback : Text.precedes right left with
    | false => rfl
    | true => exact absurd (Text.precedes_antisymm hprecedes hback) hne

theorem newestFirst_iff {left right : Position} : newestFirst left right = true ↔
    (Text.precedes right.occurredAt left.occurredAt = true ∧ right.occurredAt ≠ left.occurredAt) ∨
      (left.occurredAt = right.occurredAt ∧ Text.precedes right.id left.id = true) := by
  rw [newestFirst, Bool.or_eq_true, less_iff, Bool.and_eq_true, decide_eq_true_eq]

/-- The order of the feed. -/
def feedOrder : keyset.Order Position where
  le := newestFirst
  total left right := by
    rw [Bool.or_eq_true, newestFirst_iff, newestFirst_iff]
    by_cases hsame : left.occurredAt = right.occurredAt
    · have htotal := Text.precedes_total left.id right.id
      rw [Bool.or_eq_true] at htotal
      obtain hid | hid := htotal
      · exact .inr (.inr ⟨hsame.symm, hid⟩)
      · exact .inl (.inr ⟨hsame, hid⟩)
    · have htotal := Text.precedes_total left.occurredAt right.occurredAt
      rw [Bool.or_eq_true] at htotal
      obtain htime | htime := htotal
      · exact .inr (.inl ⟨htime, hsame⟩)
      · exact .inl (.inl ⟨htime, Ne.symm hsame⟩)
  trans {first second third} hfirst hsecond := by
    rw [newestFirst_iff] at hfirst hsecond ⊢
    obtain ⟨hfirstTime, hfirstNe⟩ | ⟨hfirstTime, hfirstId⟩ := hfirst
    · obtain ⟨hsecondTime, hsecondNe⟩ | ⟨hsecondTime, -⟩ := hsecond
      · refine .inl ⟨Text.precedes_trans _ _ _ hsecondTime hfirstTime, ?_⟩
        intro hsame
        rw [hsame] at hsecondTime
        exact hfirstNe (Text.precedes_antisymm hfirstTime hsecondTime)
      · exact .inl (hsecondTime ▸ ⟨hfirstTime, hfirstNe⟩)
    · obtain ⟨hsecondTime, hsecondNe⟩ | ⟨hsecondTime, hsecondId⟩ := hsecond
      · exact .inl (hfirstTime ▸ ⟨hsecondTime, hsecondNe⟩)
      · exact .inr ⟨hfirstTime.trans hsecondTime, Text.precedes_trans _ _ _ hsecondId hfirstId⟩
  antisymm {left right} hle hge := by
    rw [newestFirst_iff] at hle hge
    obtain ⟨htime, hne⟩ | ⟨htime, hid⟩ := hle
    · obtain ⟨hback, -⟩ | ⟨hback, -⟩ := hge
      · exact absurd (Text.precedes_antisymm htime hback) hne
      · exact absurd hback hne
    · obtain ⟨-, hne⟩ | ⟨-, hback⟩ := hge
      · exact absurd htime hne
      · cases left
        cases right
        rw [Position.mk.injEq]
        exact ⟨htime, Text.precedes_antisymm hback hid⟩

theorem not_precedes_of_ne {left right : Text} (hne : left ≠ right) :
    (!Text.precedes right left) = Text.precedes left right := by
  rw [← less, Bool.eq_iff_iff, less_iff, and_iff_left hne]

theorem precedes_refl (text : Text) : Text.precedes text text = true := by
  simpa using Text.precedes_total text text

/-- The condition of the statement holds of the rows that stand after the cursor. -/
theorem afterCursor_eq (cursor : Option Position) (row : AuditEvent) :
    afterCursor cursor row = cursor.all fun last => !feedOrder.le row.position last := by
  cases cursor with
  | none => rfl
  | some last =>
    rw [afterCursor, Option.all_some, Option.all_some]
    change _ = !newestFirst row.position last
    rw [newestFirst, less, less, less, AuditEvent.position]
    by_cases hsame : row.occurred_at = last.occurredAt
    · simp [hsame, precedes_refl]
    · simp only [hsame, decide_false, Bool.false_and, Bool.or_false, Bool.not_not]
      exact not_precedes_of_ne hsame

/-- The rows of a page are those of the generic pagination. -/
theorem selectActivity_eq (table : List AuditEvent) (userId : Text) (cursor : Option Position) :
    selectActivity table userId cursor =
      keyset.select feedOrder AuditEvent.position (table.filter (inFeed userId)) cursor
        (SECURITY_ACTIVITY_PAGE_SIZE + 1) := by
  rw [selectActivity, keyset.select, List.filter_filter]
  simp only [afterCursor_eq, Bool.and_comm]
  rfl

end order

section pages

variable {userId : Text}

/-- The rows of the feed, as the generic pagination shows them. -/
def feed (table : List AuditEvent) (userId : Text) : List AuditEvent :=
  table.filter (inFeed userId)

/-- The page of the generic pagination. -/
abbrev feedPage (table : List AuditEvent) (userId : Text) (cursor : Option Position) : keyset.Page AuditEvent Position :=
  keyset.page feedOrder AuditEvent.position SECURITY_ACTIVITY_PAGE_SIZE (feed table userId) cursor

/-- A page of the feed, with the cursor of the next one as a text. -/
theorem activityPage_eq (table : List AuditEvent) (userId : Text) (cursor : Option Position) :
    ∃ next, activityPage table userId cursor = .page ((feedPage table userId cursor).rows.map AuditEvent.shown) next ∧
      next.map decodeActivityCursor = (feedPage table userId cursor).next.map some := by
  simp only [activityPage, selectActivity_eq]
  by_cases hmore : SECURITY_ACTIVITY_PAGE_SIZE < (keyset.select feedOrder AuditEvent.position
      (table.filter (inFeed userId)) cursor (SECURITY_ACTIVITY_PAGE_SIZE + 1)).length
  · rw [if_pos hmore, if_pos hmore, feedPage, feed, keyset.page_of_more hmore]
    cases hlast : ((keyset.select feedOrder AuditEvent.position (table.filter (inFeed userId)) cursor
        (SECURITY_ACTIVITY_PAGE_SIZE + 1)).take SECURITY_ACTIVITY_PAGE_SIZE).getLast? with
    | none => exact ⟨none, rfl, rfl⟩
    | some last =>
      obtain ⟨nextCursor, hencoded, hread⟩ := last.cursor_returns
      simp only [hencoded]
      exact ⟨some nextCursor, rfl, by rw [Option.map_some, hread]; rfl⟩
  · rw [if_neg hmore, if_neg hmore, feedPage, feed, keyset.page_of_last hmore]
    exact ⟨none, rfl, rfl⟩

/-- The client's walk over the pages is that of the generic pagination. -/
theorem followActivity_eq (tables : Nat → List AuditEvent) {fuel request : Nat} {cursorParam : Option Text}
    {cursor : Option Position} (hcursor : cursorParam.map decodeActivityCursor = cursor.map some) :
    followActivity tables userId fuel request cursorParam =
      (keyset.follow feedOrder AuditEvent.position SECURITY_ACTIVITY_PAGE_SIZE (fun request => feed (tables request) userId)
        fuel request cursor).map (List.map AuditEvent.shown) := by
  induction fuel generalizing request cursorParam cursor with
  | zero => rfl
  | succ fuel ih =>
    obtain ⟨next, hpage, hnext⟩ := activityPage_eq (tables request) userId cursor
    have hresponse : getSecurityActivity (tables request) userId cursorParam =
        .page ((feedPage (tables request) userId cursor).rows.map AuditEvent.shown) next := by
      cases cursorParam with
      | none =>
        cases cursor with
        | none => exact hpage
        | some last => cases hcursor
      | some param =>
        cases cursor with
        | none => cases hcursor
        | some last =>
          simp only [Option.map_some, Option.some.injEq] at hcursor
          rw [getSecurityActivity, hcursor]
          exact hpage
    rw [followActivity, hresponse, keyset.follow]
    cases hfound : (feedPage (tables request) userId cursor).next with
    | none =>
      rw [hfound] at hnext
      obtain rfl := Option.map_eq_none_iff.mp hnext
      rfl
    | some position =>
      rw [hfound] at hnext
      obtain ⟨param, rfl, hparam⟩ := Option.map_eq_some_iff.mp hnext
      simp only
      have hread : (some param).map decodeActivityCursor = (some position).map some := by
        rw [Option.map_some, hparam]
        rfl
      rw [ih hread, Option.map_map, Option.map_map]
      congr 1
      funext rows
      simp

/-- Events of different ids have a listing: the events in the order of the feed. -/
theorem feed_listing {table : List AuditEvent} (hids : (table.map AuditEvent.id).Nodup) (userId : Text) :
    ∃ listing, listing.Perm (feed table userId) ∧ keyset.Listed feedOrder AuditEvent.position listing := by
  have hperm := List.mergeSort_perm (feed table userId) descending
  refine ⟨(feed table userId).mergeSort descending, hperm, ?_⟩
  have hdistinct : (((feed table userId).mergeSort descending).map AuditEvent.id).Nodup :=
    (hperm.map AuditEvent.id).nodup_iff.mpr (hids.sublist (List.filter_sublist.map AuditEvent.id))
  have hsorted : ((feed table userId).mergeSort descending).Pairwise
      fun left right => feedOrder.le left.position right.position = true := by
    apply List.pairwise_mergeSort
    · exact fun _ _ _ hfirst hsecond => feedOrder.trans hfirst hsecond
    · exact fun left right => feedOrder.total left.position right.position
  apply List.Pairwise.imp₂ _ hsorted (List.pairwise_map.mp hdistinct)
  intro left right hle hne
  exact ⟨hle, fun hsame => hne (congrArg Position.id hsame)⟩

/-- Whoever follows the cursors gets every event of the feed once, newest first, whatever
later events the table gets meanwhile, and a cursor is read back as it was written. -/
theorem securityActivity_visits_once (initial : List AuditEvent) (userId : Text) (tables : Nat → List AuditEvent)
    (hids : (initial.map AuditEvent.id).Nodup) (hfirst : (tables 0).Perm initial)
    (hlater : ∀ request, ∃ added, (tables request).Perm (added ++ initial) ∧
      ∀ row ∈ feed added userId, ∀ event ∈ feed initial userId, less event.occurred_at row.occurred_at = true) :
    (∃ listing : List AuditEvent, listing.Perm (feed initial userId) ∧
      (listing.Pairwise fun earlier later => less later.occurred_at earlier.occurred_at = true ∨
        (earlier.occurred_at = later.occurred_at ∧ less later.id earlier.id = true)) ∧
      ∀ fuel, initial.length < fuel →
        followActivity tables userId fuel 0 none = some (listing.map AuditEvent.shown)) ∧
      ∀ event : AuditEvent, (encodeActivityCursor event.occurred_at event.id).bind decodeActivityCursor =
        some ⟨event.occurred_at, event.id⟩ := by
  constructor
  · obtain ⟨listing, hperm, hlisted⟩ := feed_listing hids userId
    refine ⟨listing, hperm, ?_, ?_⟩
    · apply List.Pairwise.imp _ hlisted
      rintro earlier later ⟨hle, hne⟩
      have hcases := newestFirst_iff.mp hle
      obtain htime | ⟨htime, hid⟩ := hcases
      · exact .inl (less_iff.mpr htime)
      · refine .inr ⟨htime, less_iff.mpr ⟨hid, fun hsame => hne ?_⟩⟩
        rw [AuditEvent.position, AuditEvent.position, Position.mk.injEq]
        exact ⟨htime, hsame.symm⟩
    · intro fuel hfuel
      have hshort : listing.length < fuel := by
        have hfeed : (feed initial userId).length ≤ initial.length := List.length_filter_le _ _
        rw [hperm.length_eq]
        omega
      have htables : ∀ request, ∃ added, (feed (tables request) userId).Perm (added ++ listing) ∧
          ∀ row ∈ added, ∀ listed ∈ listing, feedOrder.Before row.position listed.position := by
        intro request
        obtain ⟨added, htable, hnewer⟩ := hlater request
        refine ⟨feed added userId, ?_, ?_⟩
        · have hfiltered := htable.filter (inFeed userId)
          rw [List.filter_append] at hfiltered
          exact hfiltered.trans (hperm.symm.append_left _)
        · intro row hrow listed hmem
          have hless := hnewer row hrow listed (hperm.mem_iff.mp hmem)
          refine ⟨newestFirst_iff.mpr (.inl (less_iff.mp hless)), fun hsame => ?_⟩
          exact (less_iff.mp hless).2 (congrArg Position.occurredAt hsame).symm
      have hstart : (none : Option Text).map decodeActivityCursor = (none : Option Position).map some := rfl
      have hwalk : keyset.follow feedOrder AuditEvent.position SECURITY_ACTIVITY_PAGE_SIZE
          (fun request => feed (tables request) userId) fuel 0 none = some listing :=
        keyset.follow_eq (by decide) hlisted ((hfirst.filter _).trans hperm.symm) htables
          (List.nil_append listing).symm (fun _ => rfl) hshort
      rw [followActivity_eq tables hstart, hwalk]
      rfl
  · intro event
    obtain ⟨cursor, hencoded, hread⟩ := event.cursor_returns
    rw [hencoded, Option.bind_some, hread]
    rfl

/-- Thirty events, ten of each time. -/
def numberedEvent (number : Fin 30) : AuditEvent where
  id := Text.of "00000000-0000-4000-8000-0000000000" ++
    [Text.unit (Nat.digitChar (number / 10)), Text.unit (Nat.digitChar (number % 10))]
  event_type := Text.of "session.revoked"
  subject_id := some (Text.of "u")
  metadata_json := none
  occurred_at := Text.of "2026-01-01T00:00:0" ++ Text.unit (Nat.digitChar (number / 10)) :: Text.of ".000Z"
  randomId := by decide +revert
  canonical := by decide +revert

def numberedEvents : List AuditEvent :=
  (List.finRange 30).map numberedEvent

def laterEvent : AuditEvent :=
  ⟨Text.of "00000000-0000-4000-8000-000000000030", Text.of "user.login_succeeded", some (Text.of "u"), none,
    Text.of "2026-01-02T00:00:00.000Z", by decide, by decide⟩

/-- The event that comes after the first page has been read. -/
def growingTables (request : Nat) : List AuditEvent :=
  if request = 0 then numberedEvents else laterEvent :: numberedEvents

theorem securityActivity_visits_growing :
    ∃ listing : List AuditEvent, listing.Perm (feed numberedEvents (Text.of "u")) ∧ listing.length = 30 ∧
      followActivity growingTables (Text.of "u") 31 0 none = some (listing.map AuditEvent.shown) := by
  have hids : (numberedEvents.map AuditEvent.id).Nodup := by
    have hdigits : ∀ left right : Fin 30,
        [Text.unit (Nat.digitChar (left / 10)), Text.unit (Nat.digitChar (left % 10))] =
          [Text.unit (Nat.digitChar (right / 10)), Text.unit (Nat.digitChar (right % 10))] → left = right := by
      decide
    rw [numberedEvents, List.map_map]
    refine List.Nodup.map ?_ (List.nodup_finRange 30)
    exact fun left right hsame => hdigits left right (List.append_cancel_left hsame)
  have hfeed : feed numberedEvents (Text.of "u") = numberedEvents := by
    rw [feed, List.filter_eq_self]
    intro event hevent
    obtain ⟨number, -, rfl⟩ := List.mem_map.mp hevent
    rfl
  have hnewer : ∀ number, less (numberedEvent number).occurred_at laterEvent.occurred_at = true := by decide
  have hlater : ∀ request, ∃ added, (growingTables request).Perm (added ++ numberedEvents) ∧
      ∀ row ∈ feed added (Text.of "u"), ∀ event ∈ feed numberedEvents (Text.of "u"),
        less event.occurred_at row.occurred_at = true := by
    intro request
    rw [growingTables]
    split
    · exact ⟨[], List.Perm.refl _, by simp [feed]⟩
    · refine ⟨[laterEvent], List.Perm.refl _, ?_⟩
      intro row hrow event hevent
      obtain rfl := List.mem_singleton.mp (List.mem_filter.mp hrow).1
      obtain ⟨number, -, rfl⟩ := List.mem_map.mp (List.mem_filter.mp hevent).1
      exact hnewer number
  obtain ⟨⟨listing, hperm, -, hwalk⟩, -⟩ := securityActivity_visits_once numberedEvents (Text.of "u")
    growingTables hids (List.Perm.refl _) hlater
  refine ⟨listing, hperm, ?_, hwalk 31 (by decide)⟩
  rw [hperm.length_eq, hfeed, numberedEvents, List.length_map, List.length_finRange]

end pages

end pgid.activity
