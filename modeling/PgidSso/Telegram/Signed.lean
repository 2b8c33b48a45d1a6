import PgidSso.Library.Sha256
import PgidSso.Telegram.Verify
import Mathlib.Data.List.Forall2

/-! The identity that the verification returns is one that was signed. -/

namespace pgid.telegram

open Text

/-- The fields that the login widget signs. -/
def SIGNED_FIELDS : List Text :=
  [Text.of "auth_date", Text.of "first_name", Text.of "id", Text.of "last_name", Text.of "photo_url",
    Text.of "username"]

/-- A map that Telegram may sign: standard fields, whose values have no line feed. -/
structure SignedMap where
  entries : StringMap
  distinct : (entries.map Prod.fst).Nodup
  standard : ∀ entry ∈ entries, entry.1 ∈ SIGNED_FIELDS
  oneLine : ∀ entry ∈ entries, newline ∉ entry.2

/-- The bytes that are signed. -/
def SignedMap.message (map : SignedMap) : List UInt8 :=
  (dataCheckString map.entries).encode

section lookup

variable {data : StringMap} {key value : Text}

theorem mem_of_lookup (hlookup : data.lookup key = some value) : (key, value) ∈ data := by
  induction data with
  | nil => cases hlookup
  | cons entry rest ih =>
    rw [List.lookup_cons] at hlookup
    split at hlookup
    · rename_i hkey
      rw [beq_iff_eq] at hkey
      cases hlookup
      exact hkey ▸ List.mem_cons_self
    · exact List.mem_cons_of_mem entry (ih hlookup)

theorem lookup_of_mem_keys (hkey : key ∈ data.map Prod.fst) : ∃ value, data.lookup key = some value := by
  induction data with
  | nil => cases hkey
  | cons entry rest ih =>
    rw [List.lookup_cons]
    split
    · exact ⟨entry.2, rfl⟩
    · rename_i hother
      rw [List.map_cons, List.mem_cons] at hkey
      obtain rfl | hlater := hkey
      · simp at hother
      · exact ih hlater

end lookup

section checkString

variable {data : StringMap} {key value : Text}

/-- The line of a field. -/
def field (key value : Text) : Text :=
  key ++ unit '=' :: value

/-- The fields of a check string. -/
def fields (data : StringMap) : List Text :=
  (sorted ((data.map Prod.fst).filter fun key => key ≠ Text.of "hash")).map fun key =>
    field key ((data.lookup key).getD (Text.of "undefined"))

theorem dataCheckString_eq (data : StringMap) : dataCheckString data = joinLines (fields data) :=
  rfl

theorem mem_fields_iff {line : Text} : line ∈ fields data ↔
    ∃ key value, data.lookup key = some value ∧ key ≠ Text.of "hash" ∧ line = field key value := by
  rw [fields, List.mem_map]
  constructor
  · rintro ⟨key, hkey, rfl⟩
    rw [sorted, List.mem_mergeSort, List.mem_filter, decide_eq_true_eq] at hkey
    obtain ⟨value, hvalue⟩ := lookup_of_mem_keys hkey.1
    exact ⟨key, value, hvalue, hkey.2, by rw [hvalue]; rfl⟩
  · rintro ⟨key, value, hvalue, hkey, rfl⟩
    refine ⟨key, ?_, by rw [hvalue]; rfl⟩
    rw [sorted, List.mem_mergeSort, List.mem_filter, decide_eq_true_eq]
    exact ⟨List.mem_map.mpr ⟨(key, value), mem_of_lookup hvalue, rfl⟩, hkey⟩

/-- The names of the fields are ASCII, have no `=` and no line feed, and begin with a letter. -/
theorem signedFields_plain : ∀ key ∈ SIGNED_FIELDS, key.Ascii ∧ unit '=' ∉ key ∧ newline ∉ key ∧
    key ≠ Text.of "hash" ∧ ∃ code rest, key = code :: rest ∧ isSpace code = false ∧ Text.isDigit code = false ∧
      code ≠ unit '-' ∧ code ≠ unit '+' := by
  intro key hkey
  simp only [SIGNED_FIELDS, List.mem_cons, List.not_mem_nil, or_false] at hkey
  rcases hkey with rfl | rfl | rfl | rfl | rfl | rfl <;>
    exact ⟨by decide, by decide, by decide, by decide, _, _, rfl, by decide, by decide, by decide, by decide⟩

theorem SignedMap.mem_fields {map : SignedMap} {line : Text} (hline : line ∈ fields map.entries) :
    ∃ key value, map.entries.lookup key = some value ∧ key ∈ SIGNED_FIELDS ∧ newline ∉ value ∧
      line = field key value := by
  obtain ⟨key, value, hvalue, -, rfl⟩ := mem_fields_iff.mp hline
  have hmem := mem_of_lookup hvalue
  exact ⟨key, value, hvalue, map.standard _ hmem, map.oneLine _ hmem, rfl⟩

theorem newline_not_mem_field (hkey : newline ∉ key) (hvalue : newline ∉ value) : newline ∉ field key value := by
  rw [field, List.mem_append, List.mem_cons, not_or, not_or]
  exact ⟨hkey, by decide, hvalue⟩

/-- The lines of a signed check string are its fields, when there is one. -/
theorem SignedMap.lines_eq (map : SignedMap) :
    lines (dataCheckString map.entries) = if fields map.entries = [] then [[]] else fields map.entries := by
  rw [dataCheckString_eq]
  split
  · rename_i hempty
    rw [hempty]
    rfl
  · rename_i hne
    apply lines_joinLines hne
    intro line hline
    obtain ⟨key, value, -, hkey, hvalue, rfl⟩ := map.mem_fields hline
    exact newline_not_mem_field (signedFields_plain key hkey).2.2.1 hvalue

theorem wellFormed_field (hkey : key.Ascii) : wellFormed (field key value) = field key (wellFormed value) := by
  rw [field, wellFormed_append (by decide), wellFormed_of_ascii hkey, field]

theorem wellFormed_eq_nil {line : Text} (hline : wellFormed line = []) : line = [] :=
  eq_of_wellFormed_ascii hline ascii_nil

/-- The lines of a check string with the bytes of a signed one are the signed fields, up to
unpaired surrogates, unless it is empty. -/
theorem signed_line {map : SignedMap} (hbytes : (dataCheckString data).encode = map.message) {line other : Text}
    (hother : other ∈ lines (dataCheckString data)) (hnonempty : other ≠ [])
    (hline : line ∈ lines (dataCheckString data)) :
    ∃ key value, map.entries.lookup key = some value ∧ key ∈ SIGNED_FIELDS ∧
      wellFormed line = field key (wellFormed value) := by
  have hlines : (lines (dataCheckString data)).map wellFormed = (lines (dataCheckString map.entries)).map wellFormed :=
    lines_of_encode hbytes
  rw [map.lines_eq] at hlines
  split at hlines
  · have hempty : wellFormed other ∈ ([[]] : List Text).map wellFormed :=
      hlines ▸ List.mem_map_of_mem hother
    rw [List.map_singleton, List.mem_singleton, wellFormed] at hempty
    exact absurd (wellFormed_eq_nil hempty) hnonempty
  · have hsigned : wellFormed line ∈ (fields map.entries).map wellFormed := hlines ▸ List.mem_map_of_mem hline
    obtain ⟨signedLine, hmem, heq⟩ := List.mem_map.mp hsigned
    obtain ⟨key, value, hvalue, hkey, -, rfl⟩ := map.mem_fields hmem
    exact ⟨key, value, hvalue, hkey, by rw [← heq, wellFormed_field (signedFields_plain key hkey).1]⟩

theorem field_ne_nil (key value : Text) : field key value ≠ [] :=
  List.append_ne_nil_of_right_ne_nil key (List.cons_ne_nil _ value)

/-- A line of a standard name is the signed field of that name. -/
theorem signed_field {map : SignedMap} (hbytes : (dataCheckString data).encode = map.message)
    (hkey : key ∈ SIGNED_FIELDS) {first : Text} (hline : field key first ∈ lines (dataCheckString data)) :
    ∃ value, map.entries.lookup key = some value ∧ wellFormed first = wellFormed value := by
  obtain ⟨name, value, hvalue, hname, hsame⟩ := signed_line hbytes hline (field_ne_nil key first) hline
  rw [wellFormed_field (signedFields_plain key hkey).1] at hsame
  obtain ⟨rfl, hfirst⟩ :=
    append_separator_inj (signedFields_plain key hkey).2.1 (signedFields_plain name hname).2.1 hsame
  exact ⟨value, hvalue, hfirst⟩

/-- The lines of the check string that a field is written on. -/
theorem field_lines (hvalue : data.lookup key = some value) (hkey : key ∈ SIGNED_FIELDS) {first : Text}
    {others : List Text} (hlines : lines value = first :: others) :
    field key first ∈ lines (dataCheckString data) ∧ ∀ line ∈ others, line ∈ lines (dataCheckString data) := by
  obtain ⟨-, -, hfree, hhash, -⟩ := signedFields_plain key hkey
  have hmem : field key value ∈ fields data := mem_fields_iff.mpr ⟨key, value, hvalue, hhash, rfl⟩
  have hbegins : newline ∉ key ++ [unit '='] := by
    rw [List.mem_append, not_or]
    exact ⟨hfree, by decide⟩
  have hfield : lines (field key value) = field key first :: others := by
    have happend := lines_append hbegins hlines
    rwa [List.append_assoc, List.append_assoc, List.singleton_append] at happend
  rw [dataCheckString_eq]
  constructor
  · apply mem_lines_joinLines hmem
    rw [hfield]
    exact List.mem_cons_self
  · intro line hline
    apply mem_lines_joinLines hmem
    rw [hfield]
    exact List.mem_cons_of_mem _ hline

/-- The id that is read is the signed one. -/
theorem signed_id {map : SignedMap} (hbytes : (dataCheckString data).encode = map.message)
    (hvalue : data.lookup (Text.of "id") = some value) (hdigits : value.all Text.isDigit = true) :
    map.entries.lookup (Text.of "id") = some value := by
  have hplain : ∀ code ∈ value, code < 0x80 ∧ code ≠ newline := by
    intro code hcode
    have hdigit := List.all_eq_true.mp hdigits code hcode
    rw [Text.isDigit, decide_eq_true_eq] at hdigit
    refine ⟨UInt16.lt_of_le_of_lt hdigit.2 (by decide), ?_⟩
    rintro rfl
    exact absurd hdigit.1 (by decide)
  have hfree : newline ∉ value := fun hmem => (hplain newline hmem).2 rfl
  obtain ⟨hline, -⟩ := field_lines hvalue (by decide) (lines_of_free hfree)
  obtain ⟨signedValue, hsigned, hsame⟩ := signed_field hbytes (by decide) hline
  have hascii : value.Ascii := fun code hcode => (hplain code hcode).1
  rw [wellFormed_of_ascii hascii] at hsame
  rw [hsigned, eq_of_wellFormed_ascii hsame.symm hascii]

/-- The date that is read is the signed one. -/
theorem signed_date {map : SignedMap} (hbytes : (dataCheckString data).encode = map.message)
    (hvalue : data.lookup (Text.of "auth_date") = some value) {date : Int} (hdate : parseInt value = some date) :
    (map.entries.lookup (Text.of "auth_date")).bind parseInt = some date := by
  have hsigned : ∀ first others, lines value = first :: others → parseInt first = some date →
      (map.entries.lookup (Text.of "auth_date")).bind parseInt = some date := by
    intro first others hlines hfirst
    obtain ⟨hline, -⟩ := field_lines hvalue (by decide) hlines
    obtain ⟨signedValue, hsigned, hsame⟩ := signed_field hbytes (by decide) hline
    rw [hsigned, Option.bind_some, parseInt_similar (similar_wellFormed signedValue), ← hsame,
      ← parseInt_similar (similar_wellFormed first)]
    exact hfirst
  obtain hfree | ⟨line, rest, rfl, hfree⟩ := split_newline value
  · exact hsigned value [] (lines_of_free hfree) hdate
  · rw [parseInt_newline] at hdate
    split at hdate
    · -- The line is white space, and the next one begins with the name of a signed field.
      exfalso
      obtain ⟨next, later, hrest⟩ := lines_cons rest
      have hlines : lines (line ++ newline :: rest) = line :: lines rest := lines_append_newline hfree
      rw [hrest] at hlines
      obtain ⟨hline, hothers⟩ := field_lines hvalue (by decide) hlines
      obtain ⟨name, signedValue, -, hname, hsame⟩ :=
        signed_line hbytes hline (field_ne_nil _ _) (hothers next List.mem_cons_self)
      obtain ⟨hascii, -, -, -, code, letters, rfl, hspace, hdigit, hminus, hplus⟩ := signedFields_plain name hname
      have hsimilar := similar_wellFormed next
      rw [hsame] at hsimilar
      obtain ⟨head, tail, hhead, -, rfl⟩ := List.forall₂_cons_right_iff.mp hsimilar
      have hcode : head = code := by
        obtain heq | ⟨-, hinert⟩ := hhead
        · exact heq
        · exact absurd (ascii_cons.mp hascii).1 hinert.not_ascii
      subst hcode
      obtain ⟨others, rfl⟩ := head_of_lines hrest
      rw [parseInt_eq_none hspace hdigit hminus hplus] at hdate
      cases hdate
    · exact hsigned line (lines rest) (lines_append_newline hfree) hdate

end checkString

section verification

variable {crypto : SubtleCrypto} {data : StringMap} {botToken : Text} {now : Timestamp} {user : TelegramUser}

theorem foldl_difference (codes : List (UInt16 × UInt16)) (difference : UInt16) :
    codes.foldl (fun diff codes => diff ||| (codes.1 ^^^ codes.2)) difference = 0 ↔
      difference = 0 ∧ ∀ pair ∈ codes, pair.1 = pair.2 := by
  induction codes generalizing difference with
  | nil => simp
  | cons pair codes ih =>
    rw [List.foldl_cons, ih, UInt16.or_eq_zero_iff, UInt16.xor_eq_zero_iff, List.forall_mem_cons, and_assoc]

/-- The comparison without early exit finds equal texts. -/
theorem timingSafeEqualHex_iff {a b : Text} : timingSafeEqualHex a b = true ↔ a = b := by
  rw [timingSafeEqualHex]
  split
  · rename_i hlength
    simp only [Bool.false_eq_true, false_iff]
    rintro rfl
    exact hlength rfl
  · rename_i hlength
    rw [ne_eq, not_not] at hlength
    rw [decide_eq_true_eq, foldl_difference, and_iff_right rfl]
    induction a generalizing b with
    | nil => simp [List.length_eq_zero_iff.mp hlength.symm]
    | cons code a ih =>
      cases b with
      | nil => cases hlength
      | cons other b =>
        rw [List.length_cons, List.length_cons, Nat.succ_inj] at hlength
        rw [List.zip_cons_cons, List.forall_mem_cons, ih hlength, List.cons.injEq]

/-- The tag of a message under the token. -/
def tag (crypto : SubtleCrypto) (botToken : Text) (message : List UInt8) : List UInt8 :=
  crypto.hmacSha256 (crypto.sha256 botToken.encode) message

/-- What the verification has checked of the payload that it accepts. -/
theorem verifyTelegramAuth_checked (haccepted : verifyTelegramAuth crypto data botToken now = .ok user) :
    (∃ hash, data.get "hash" = some hash ∧
      toLowerCase hash = toHex (tag crypto botToken (dataCheckString data).encode)) ∧
    (∃ value date, data.get "auth_date" = some value ∧ parseInt value = some date ∧
      now.ms / 1000 - date ≤ 300 ∧ date - now.ms / 1000 ≤ 60) ∧
    data.get "id" = some user.id ∧ user.id.all Text.isDigit = true := by
  rw [verifyTelegramAuth] at haccepted
  split at haccepted
  · cases haccepted
  · rename_i hash hhash
    split at haccepted
    · cases haccepted
    · simp only at haccepted
      split at haccepted
      · cases haccepted
      · rename_i htag
        rw [not_not, timingSafeEqualHex_iff] at htag
        split at haccepted
        · cases haccepted
        · rename_i date hdate
          split at haccepted
          · cases haccepted
          · rename_i hwindow
            split at haccepted
            · cases haccepted
            · rename_i hid
              cases haccepted
              simp only [not_or, Int.not_lt, TELEGRAM_AUTH_MAX_AGE_SECONDS, TELEGRAM_AUTH_FUTURE_SKEW_SECONDS]
                at hwindow
              rw [not_not] at hid
              refine ⟨⟨hash, hhash, htag.symm⟩, ?_, ?_, hid.2.2⟩
              · cases hvalue : data.get "auth_date" with
                | none =>
                  rw [hvalue, Option.getD_none, parseInt_spaces rfl] at hdate
                  cases hdate
                | some value =>
                  rw [hvalue, Option.getD_some] at hdate
                  exact ⟨value, date, rfl, hdate, hwindow⟩
              · cases hvalue : data.get "id" with
                | none =>
                  rw [hvalue, Option.getD_none] at hid
                  exact absurd hid.1 (by decide)
                | some value => rfl

/-- The user that is returned for a payload is the one of a signed map, and that map's date
is fresh: a tag that a client presents is one that has been issued, and the message that is
compared has the tag of no other signed map. -/
theorem verifyTelegramAuth_signed (numberText : json.Literal → Text) (crypto : SubtleCrypto) (botToken : Text)
    (signed : SignedMap → Prop) (now : Timestamp) (input : json.Value) (user : TelegramUser)
    (hunforgeable : ∀ data hash, toStringMap numberText input = some data → data.get "hash" = some hash →
      toLowerCase hash = toHex (tag crypto botToken (dataCheckString data).encode) →
        ∃ map, signed map ∧ tag crypto botToken map.message = tag crypto botToken (dataCheckString data).encode)
    (hinjective : ∀ data map, toStringMap numberText input = some data → signed map →
      tag crypto botToken map.message = tag crypto botToken (dataCheckString data).encode →
        map.message = (dataCheckString data).encode)
    (haccepted : (toStringMap numberText input).map (fun data => verifyTelegramAuth crypto data botToken now) =
      some (.ok user)) :
    ∃ map, signed map ∧ map.entries.get "id" = some user.id ∧
      ∃ date, (map.entries.get "auth_date").bind parseInt = some date ∧
        now.ms / 1000 - 300 ≤ date ∧ date ≤ now.ms / 1000 + 60 := by
  obtain ⟨data, hdata, hverified⟩ := Option.map_eq_some_iff.mp haccepted
  obtain ⟨⟨hash, hhash, htag⟩, ⟨value, date, hvalue, hdate, hage, hskew⟩, hid, hdigits⟩ :=
    verifyTelegramAuth_checked hverified
  obtain ⟨map, hsigned, hissued⟩ := hunforgeable data hash hdata hhash htag
  have hbytes : (dataCheckString data).encode = map.message := (hinjective data map hdata hsigned hissued).symm
  refine ⟨map, hsigned, signed_id hbytes hid hdigits, date, signed_date hbytes hvalue hdate, ?_, ?_⟩
  · omega
  · omega

/-- A map of a date, a name with an equals sign, and an id. -/
def signedExample : SignedMap where
  entries := [(Text.of "auth_date", Text.of "1700000000"), (Text.of "first_name", Text.of "a=b"),
    (Text.of "id", Text.of "42")]
  distinct := by decide
  standard := by decide
  oneLine := by decide

/-- The tag of that map under the token `42:PG72-bot`. -/
def exampleTag : List UInt8 :=
  [253, 113, 5, 208, 245, 80, 26, 252, 202, 67, 15, 225, 94, 12, 85, 104, 96, 50, 212, 252, 5, 152, 126, 251, 141, 20,
    73, 42, 151, 94, 252, 218]

/-- The digest, and the code of the one message that is compared. -/
def exampleCrypto : SubtleCrypto where
  sha256 bytes := (sha2.sha256 bytes).toList
  hmacSha256 _ _ := exampleTag

/-- A payload of the same bytes: a line feed in its date begins the name. -/
def examplePayload : json.Value :=
  .object [(Text.of "auth_date", .string (Text.of "1700000000\nfirst_name=a=b")),
    (Text.of "hash", .string (toHex exampleTag)), (Text.of "id", .string (Text.of "42"))]

def exampleData : StringMap :=
  [(Text.of "auth_date", Text.of "1700000000\nfirst_name=a=b"), (Text.of "hash", toHex exampleTag),
    (Text.of "id", Text.of "42")]

theorem message_example : signedExample.message = (Text.of "auth_date=1700000000\nfirst_name=a=b\nid=42").encode := by
  have hkeys : ((signedExample.entries.map Prod.fst).filter fun key => key ≠ Text.of "hash") =
      [Text.of "auth_date", Text.of "first_name", Text.of "id"] := by decide
  have hsorted : sorted [Text.of "auth_date", Text.of "first_name", Text.of "id"] =
      [Text.of "auth_date", Text.of "first_name", Text.of "id"] :=
    List.mergeSort_of_pairwise (by decide)
  rw [SignedMap.message, dataCheckString, hkeys, hsorted]
  decide

theorem dataCheckString_example :
    dataCheckString exampleData = Text.of "auth_date=1700000000\nfirst_name=a=b\nid=42" := by
  have hkeys : ((exampleData.map Prod.fst).filter fun key => key ≠ Text.of "hash") =
      [Text.of "auth_date", Text.of "id"] := by decide
  have hsorted : sorted [Text.of "auth_date", Text.of "id"] = [Text.of "auth_date", Text.of "id"] :=
    List.mergeSort_of_pairwise (by decide)
  rw [dataCheckString, hkeys, hsorted]
  decide

theorem verifyTelegramAuth_signed_example :
    (toStringMap (fun _ => []) examplePayload).map (fun data =>
        verifyTelegramAuth exampleCrypto data (Text.of "42:PG72-bot") ⟨1700000100000, by decide⟩) =
      some (.ok ⟨Text.of "42", none, none, none, none⟩) ∧
    ∃ map, map = signedExample ∧ map.entries.get "id" = some (Text.of "42") := by
  have hdata : toStringMap (fun _ => []) examplePayload = some exampleData := by
    decide
  have haccepted : (toStringMap (fun _ => []) examplePayload).map (fun data =>
      verifyTelegramAuth exampleCrypto data (Text.of "42:PG72-bot") ⟨1700000100000, by decide⟩) =
        some (.ok ⟨Text.of "42", none, none, none, none⟩) := by
    rw [hdata, Option.map_some, verifyTelegramAuth, dataCheckString_example]
    decide
  have hsame : ∀ data, toStringMap (fun _ => []) examplePayload = some data →
      signedExample.message = (dataCheckString data).encode := by
    intro data hread
    rw [hdata, Option.some.injEq] at hread
    rw [← hread, message_example, dataCheckString_example]
  refine ⟨haccepted, ?_⟩
  obtain ⟨map, hmap, hid, -⟩ := verifyTelegramAuth_signed (fun _ => []) exampleCrypto (Text.of "42:PG72-bot")
    (fun map => map = signedExample) ⟨1700000100000, by decide⟩ examplePayload ⟨Text.of "42", none, none, none, none⟩
    (fun data _ hread _ _ => ⟨signedExample, rfl, by rw [hsame data hread]⟩)
    (fun data map hread hmap _ => by rw [hmap, hsame data hread]) haccepted
  exact ⟨map, hmap, hid⟩

end verification

end pgid.telegram
