import PgidSso.Client.System

open checked transition pgid.administration

namespace pgid.management

/-- What the first statement of a batch with a client of its own lets through. -/
def Request.Accepted (times : Nat → Int) (tables : Tables) : Request → Prop
  | .patch guard expectedUpdatedAt _ _ _ => (guard.versioned expectedUpdatedAt).Auditable tables (times 0)
  | .rotateSecret guard _ _ | .status guard _ _ | .delete guard => guard.managed.Permits tables (times 0)
  | .create actor _ | .provision actor _ _ _ => actor.Commits tables.users tables.sessions (times 0)

def Task.change (now : Int) : Task → ClientRow → ClientRow
  | .edit editing => ClientRow.edited editing.settings now
  | .rotateSecret _ storedClientSecret => ClientRow.withSecret storedClientSecret now
  | .status _ disabled => ClientRow.withDisabled disabled now

theorem Task.change_id (task : Task) (now : Int) (row : ClientRow) : (task.change now row).id = row.id := by
  cases task <;> rfl

theorem Task.change_updatedAt (task : Task) (now : Int) (row : ClientRow) :
    (task.change now row).updatedAt = some now := by
  cases task <;> rfl

section batches

variable {tables : Tables} {event : AuditRow} {times : Nat → Int}

/-- A request in flight changes its row and no other, or no row at all. -/
theorem run_clients (hkeys : (tables.clients.map (·.id)).Nodup) (hfresh : ¬ tables.HasAudit event.id)
    (hmonotone : Monotone times) (task : Task) (now : Int) :
    ((Request.run event times tables (task.request now)).mutated = true ∧
        (task.request now).Accepted times tables ∧
        (Request.run event times tables (task.request now)).tables.clients =
          table.update (fun row : ClientRow => row.id = task.clientRowId) (task.change now) tables.clients) ∨
      ((Request.run event times tables (task.request now)).mutated = false ∧
        (Request.run event times tables (task.request now)).tables.clients = tables.clients) := by
  cases task with
  | edit edit =>
    by_cases haudit : (edit.guard.versioned edit.client.updatedAt).Auditable tables (times 0)
    · by_cases hcheck : backchannelLogoutUriCheck edit.settings.backchannelLogoutUri = true
      · obtain ⟨after, hrun, -, heffect⟩ := patch_of_auditable hkeys hfresh edit.guard edit.client.updatedAt
          edit.settings edit.changes now haudit hcheck
        rw [Task.request, hrun]
        exact .inl ⟨rfl, haudit, heffect.1⟩
      · rw [Task.request, patch_of_check hfresh _ _ _ _ _ haudit hcheck]
        exact .inr ⟨rfl, rfl⟩
    · rw [Task.request, patch_of_not_auditable hfresh _ _ _ _ _ haudit]
      exact .inr ⟨rfl, rfl⟩
  | rotateSecret guard storedClientSecret =>
    obtain ⟨result, hbatch, hresult⟩ : ∃ result,
        rotateSecretBatch guard storedClientSecret now event times tables = .ok result ∧
          Updates guard (ClientRow.withSecret storedClientSecret now) (times 0) tables result := by
      apply updateBatch_updates hkeys hfresh (hmonotone (Nat.zero_le 1))
      · exact fun _ => ⟨rfl, rfl, rfl⟩
      · exact fun _ => ⟨rfl, rfl, rfl, rfl⟩
      · exact fun _ => rfl
    rw [Task.request, Request.run, hbatch]
    exact hresult.imp_right fun h => ⟨h.1, congrArg Tables.clients h.2⟩
  | status guard disabled =>
    obtain ⟨result, hbatch, hresult⟩ : ∃ result,
        statusBatch guard disabled now event times tables = .ok result ∧
          Updates guard (ClientRow.withDisabled disabled now) (times 0) tables result := by
      cases disabled with
      | false =>
        apply updateBatch_updates hkeys hfresh (hmonotone (Nat.zero_le 1))
        · exact fun _ => ⟨rfl, rfl, rfl⟩
        · exact fun _ => ⟨rfl, rfl, rfl, rfl⟩
        · exact fun _ => rfl
      | true =>
        apply updateBatch_updates hkeys hfresh (hmonotone (Nat.zero_le 4))
        · exact fun _ => ⟨rfl, rfl, rfl⟩
        · exact statusCleanups_keeps guard.managed now times
        · exact statusCleanups_idle hmonotone
    rw [Task.request, Request.run, hbatch]
    exact hresult.imp_right fun h => ⟨h.1, congrArg Tables.clients h.2⟩

end batches

/-- A call with an edit that has not committed. -/
def System.InFlight (system : System) (call : Text) (edit : Edit) : Prop :=
  ∃ pending, system.calls call = some pending ∧ pending.task = .edit edit

/-- What the load of an edit has checked. -/
structure Edit.Loaded (edit : Edit) : Prop where
  row : edit.guard.clientRowId = edit.client.id
  distinct : edit.settings.Distinct
  redirectUris : ¬ SameSet edit.client.redirectUris edit.settings.redirectUris →
    edit.changes.redirectUris = true
  permissions : ¬ (SameSet (edit.client.scopes.getD []) (edit.settings.scopes.getD []) ∧
      SameSet (edit.client.grantTypes.getD []) (edit.settings.grantTypes.getD [])) →
    edit.changes.permissions = true

/-- Before an edit is overtaken its row has the settings that it has loaded; after, the row
has not the version that it has loaded. -/
def Edit.Watches (edit : Edit) (clients : List ClientRow) : Prop :=
  ∀ row ∈ clients, row.id = edit.client.id →
    (edit.overtaken = true → row.updatedAt ≠ edit.client.updatedAt) ∧
      (edit.overtaken = false → row.toClientSettings = edit.client.toClientSettings)

structure Inv (system : System) : Prop where
  keys : (system.tables.clients.map (·.id)).Nodup
  distinct : ∀ row ∈ system.tables.clients, row.Distinct
  edits : ∀ call edit, system.InFlight call edit → edit.Loaded ∧ edit.Watches system.tables.clients

theorem Inv.start {system : System} (hstart : system.Start) : Inv system where
  keys := hstart.keys
  distinct := hstart.distinct
  edits := by
    rintro call edit ⟨pending, hpending, -⟩
    rw [hstart.idle call] at hpending
    cases hpending

theorem loadManagedClient_mem {actor : AdminActor} {clientId : Text} {tables : Tables} {client : ClientRow}
    (hload : loadManagedClient actor clientId tables = .ok client) : client ∈ tables.clients := by
  unfold loadManagedClient at hload
  split at hload
  · cases hload
  · rename_i row hrow
    obtain ⟨-, hload⟩ := throwIf_bind_eq_ok_iff.mp hload
    obtain ⟨-, hload⟩ := throwIf_bind_eq_ok_iff.mp hload
    cases hload
    exact List.mem_of_find?_eq_some hrow

theorem loadEdit_loaded {runtime : Runtime} {actor : AdminActor} {clientId : Text} {input : UpdateClientInput}
    {tables : Tables} {edit : Edit} (hkeys : (tables.clients.map (·.id)).Nodup)
    (hdistinct : ∀ row ∈ tables.clients, row.Distinct)
    (hload : loadEdit runtime actor clientId input tables = .ok edit) :
    edit.Loaded ∧ edit.Watches tables.clients := by
  unfold loadEdit at hload
  obtain ⟨-, hload⟩ := throwIf_bind_eq_ok_iff.mp hload
  obtain ⟨client, hclient, hload⟩ := bind_eq_ok_iff.mp hload
  obtain ⟨⟨settings, changes⟩, hedit, hload⟩ := bind_eq_ok_iff.mp hload
  cases hload
  have hmem := loadManagedClient_mem hclient
  obtain ⟨hsettings, hredirectUris, hpermissions⟩ := editClient_changes (hdistinct client hmem) hedit
  refine ⟨⟨rfl, hsettings, hredirectUris, hpermissions⟩, ?_⟩
  intro row hrow hid
  refine ⟨fun h => absurd h Bool.false_ne_true, fun _ => ?_⟩
  rw [table.eq_of_key hkeys hrow hmem hid]

/-- A call that starts, with an edit that has just been loaded or another task. -/
theorem Inv.start_call {system next : System} {event : Event} {call : Text} {task : Task} (hinv : Inv system)
    (htask : ∀ edit, task = .edit edit → edit.Loaded ∧ edit.Watches system.tables.clients)
    (hstart : system.start call task = some (event, next)) : Inv next := by
  unfold System.start at hstart
  split at hstart
  · cases hstart
  · cases hstart
    refine ⟨hinv.keys, hinv.distinct, ?_⟩
    rintro other edit ⟨pending, hpending, hedit⟩
    rcases update_eq_some hpending with ⟨-, rfl⟩ | ⟨-, hpending⟩
    · exact htask edit hedit
    · exact hinv.edits other edit ⟨pending, hpending, hedit⟩

/-- What a step must not do: write a version that an edit in flight expects, to a row whose
settings have changed since the edit has loaded it or change now; and disable a client with a
session that expires in the batch. -/
def Undisturbed (system : System) : Action → Prop
  | .commit call _ start delays =>
    ∀ task collided now, system.calls call = some { task, collided, now := some now } →
      ((task.request now).Accepted (instants start delays) system.tables →
        ∀ other edit, other ≠ call → system.InFlight other edit → edit.client.id = task.clientRowId →
          edit.client.updatedAt = some now →
            edit.overtaken = false ∧ ¬ (task.request now).ChangesSettings system.tables) ∧
      ∀ guard, task = .status guard true →
        Steady (instants start delays) system.tables (task.request now)
  | _ => True

theorem Call.overtake_edit {clientRowId : Text} {pending : Call} {edit : Edit}
    (hedit : (pending.overtake clientRowId).task = .edit edit) :
    ∃ found, pending.task = .edit found ∧
      ((found.client.id = clientRowId ∧ edit = { found with overtaken := true }) ∨
        (found.client.id ≠ clientRowId ∧ edit = found)) := by
  unfold Call.overtake at hedit
  split at hedit
  · rename_i found htask
    by_cases hid : found.client.id = clientRowId
    · rw [if_pos hid] at hedit
      cases hedit
      exact ⟨found, htask, .inl ⟨hid, rfl⟩⟩
    · rw [if_neg hid, htask] at hedit
      cases hedit
      exact ⟨_, htask, .inr ⟨hid, rfl⟩⟩
  · rename_i hnot
    exact absurd hedit (hnot edit)

theorem Call.read_task (clock : Int) (call : Call) : (call.read clock).task = call.task := by
  unfold Call.read
  split
  · rfl
  · split
    · rfl
    · split <;> rfl
  · rfl

/-- The reading of the clock leaves the edits in flight as they are. -/
theorem inFlight_of_readClock {system next : System} {event : Event} {call : Text}
    (hread : system.readClock call = some (event, next)) :
    next.tables = system.tables ∧ ∀ other edit, next.InFlight other edit → system.InFlight other edit := by
  unfold System.readClock at hread
  split at hread
  · cases hread
  · rename_i earlier hcall
    cases hread
    refine ⟨rfl, ?_⟩
    rintro other edit ⟨pending, hpending, hedit⟩
    rcases update_eq_some hpending with ⟨rfl, rfl⟩ | ⟨-, hpending⟩
    · exact ⟨earlier, hcall, (earlier.read_task system.clock).symm.trans hedit⟩
    · exact ⟨pending, hpending, hedit⟩

/-- The batch of a call, and the edits in flight after it. -/
theorem inFlight_of_commit {system next : System} {recorded : Event} {call : Text} {event : AuditRow}
    {start : Int} {delays : List Nat} (hcommit : system.commit call event start delays = some (recorded, next)) :
    ∃ task collided now, system.calls call = some { task, collided, now := some now } ∧
      ¬ system.tables.HasAudit event.id ∧
      next.tables = (Request.run event (instants start delays) system.tables (task.request now)).tables ∧
      (recorded =
        if (Request.run event (instants start delays) system.tables (task.request now)).mutated then
          .committed task now system.tables next.tables
        else .other) ∧
      ∀ other edit, next.InFlight other edit → ∃ found, other ≠ call ∧ system.InFlight other found ∧
        ((found.client.id = task.clientRowId ∧
            (Request.run event (instants start delays) system.tables (task.request now)).mutated = true ∧
            (task.request now).ChangesSettings system.tables ∧ edit = { found with overtaken := true }) ∨
          ((found.client.id = task.clientRowId →
              (Request.run event (instants start delays) system.tables (task.request now)).mutated = true →
              ¬ (task.request now).ChangesSettings system.tables) ∧ edit = found)) := by
  unfold System.commit at hcommit
  split at hcommit
  · rename_i task collided now hcall
    split at hcommit
    · cases hcommit
    · rename_i hfresh
      cases hcommit
      refine ⟨task, collided, now, hcall, hfresh, rfl, rfl, ?_⟩
      rintro other edit ⟨pending, hpending, hedit⟩
      dsimp only at hpending
      split at hpending
      · rename_i hchanges
        obtain ⟨earlier, hearlier, rfl⟩ := Option.map_eq_some_iff.mp hpending
        have hother : other ≠ call := by
          rintro rfl
          rw [Function.update_self] at hearlier
          cases hearlier
        rw [Function.update_of_ne hother] at hearlier
        obtain ⟨found, htask, hfound⟩ := Call.overtake_edit hedit
        refine ⟨found, hother, ⟨earlier, hearlier, htask⟩, ?_⟩
        rcases hfound with ⟨hid, rfl⟩ | ⟨hid, rfl⟩
        · exact .inl ⟨hid, hchanges.1, hchanges.2, rfl⟩
        · exact .inr ⟨fun h => absurd h hid, rfl⟩
      · rename_i hkeeps
        have hother : other ≠ call := by
          rintro rfl
          rw [Function.update_self] at hpending
          cases hpending
        rw [Function.update_of_ne hother] at hpending
        exact ⟨edit, hother, ⟨pending, hpending, hedit⟩, .inr ⟨fun _ hmutated h => hkeeps ⟨hmutated, h⟩, rfl⟩⟩
  · cases hcommit

theorem Task.change_settings {task : Task} {now : Int} {tables : Tables} {row : ClientRow}
    (hrow : row ∈ tables.clients) (hid : row.id = task.clientRowId)
    (hkeeps : ¬ (task.request now).ChangesSettings tables) :
    (task.change now row).toClientSettings = row.toClientSettings := by
  cases task with
  | edit edit =>
    by_contra hchanged
    exact hkeeps ⟨row, hrow, hid, fun h => hchanged h.symm⟩
  | rotateSecret => rfl
  | status => rfl

theorem Task.change_distinct {task : Task} (now : Int) {row : ClientRow} (hrow : row.Distinct)
    (htask : ∀ edit, task = .edit edit → edit.Loaded) : (task.change now row).Distinct := by
  cases task with
  | edit edit => exact (htask edit rfl).distinct
  | rotateSecret => exact hrow
  | status => exact hrow

/-- An edit that is not overtaken by a batch, or is and does not expect its version. -/
theorem Edit.Watches.commit {edit found : Edit} {task : Task} {now : Int} {tables : Tables}
    (hwatches : found.Watches tables.clients)
    (hundisturbed : found.client.id = task.clientRowId → found.client.updatedAt = some now →
      found.overtaken = false ∧ ¬ (task.request now).ChangesSettings tables)
    (hedit : (found.client.id = task.clientRowId ∧ (task.request now).ChangesSettings tables ∧
        edit = { found with overtaken := true }) ∨
      ((found.client.id = task.clientRowId → ¬ (task.request now).ChangesSettings tables) ∧ edit = found)) :
    edit.Watches
      (table.update (fun row : ClientRow => row.id = task.clientRowId) (task.change now) tables.clients) := by
  intro row hrow hid
  rcases table.mem_update.mp hrow with ⟨old, hold, hmatch, rfl⟩ | ⟨hold, hmatch⟩
  · rw [task.change_id] at hid
    rw [task.change_updatedAt]
    rcases hedit with ⟨hfound, hchanges, rfl⟩ | ⟨hkeeps, rfl⟩
    · refine ⟨fun _ hversion => ?_, fun h => absurd h.symm Bool.false_ne_true⟩
      exact (hundisturbed hfound hversion.symm).2 hchanges
    · have hfound : edit.client.id = task.clientRowId := hid.symm.trans hmatch
      refine ⟨fun hovertaken hversion => ?_, fun hovertaken => ?_⟩
      · have hnot := (hundisturbed hfound hversion.symm).1
        rw [hovertaken] at hnot
        cases hnot
      · rw [Task.change_settings hold hmatch (hkeeps hfound)]
        exact (hwatches old hold hid).2 hovertaken
  · rcases hedit with ⟨hfound, -, rfl⟩ | ⟨-, rfl⟩
    · exact absurd (hid.trans hfound) hmatch
    · exact hwatches row hold hid

theorem Inv.commit {system next : System} {recorded : Event} {call : Text} {event : AuditRow} {start : Int}
    {delays : List Nat} (hinv : Inv system)
    (hundisturbed : Undisturbed system (.commit call event start delays))
    (hcommit : system.commit call event start delays = some (recorded, next)) : Inv next := by
  obtain ⟨task, collided, now, hcall, hfresh, htables, -, hflight⟩ := inFlight_of_commit hcommit
  have hloaded : ∀ edit, task = .edit edit → edit.Loaded := by
    rintro edit rfl
    exact (hinv.edits call edit ⟨_, hcall, rfl⟩).1
  have hversion := (hundisturbed task collided now hcall).1
  have hoverwritten : ∀ found : Edit, found.Loaded → Edit.Loaded { found with overtaken := true } :=
    fun found h => ⟨h.row, h.distinct, h.redirectUris, h.permissions⟩
  rcases run_clients hinv.keys hfresh (instants_monotone start delays) task now with
    ⟨hmutated, haccepted, hclients⟩ | ⟨hmutated, hclients⟩
  · rw [← htables] at hclients
    refine ⟨?_, ?_, ?_⟩
    · rw [hclients]
      exact table.nodup_map_update hinv.keys (task.change_id now)
    · intro row hrow
      rw [hclients] at hrow
      rcases table.mem_update.mp hrow with ⟨old, hold, -, rfl⟩ | ⟨hold, -⟩
      · exact Task.change_distinct now (hinv.distinct old hold) hloaded
      · exact hinv.distinct row hold
    · intro other edit hother
      obtain ⟨found, hne, hfound, hedit⟩ := hflight other edit hother
      obtain ⟨hfoundLoaded, hfoundWatches⟩ := hinv.edits other found hfound
      rw [hclients]
      refine ⟨?_, ?_⟩
      · rcases hedit with ⟨-, -, -, rfl⟩ | ⟨-, rfl⟩
        · exact hoverwritten found hfoundLoaded
        · exact hfoundLoaded
      · apply Edit.Watches.commit hfoundWatches (hversion haccepted other found hne hfound)
        exact hedit.imp (fun h => ⟨h.1, h.2.2.1, h.2.2.2⟩) fun h => ⟨fun hid => h.1 hid hmutated, h.2⟩
  · rw [← htables] at hclients
    refine ⟨hclients.symm ▸ hinv.keys, hclients.symm ▸ hinv.distinct, ?_⟩
    intro other edit hother
    obtain ⟨found, -, hfound, hedit⟩ := hflight other edit hother
    rcases hedit with ⟨-, h, -⟩ | ⟨-, rfl⟩
    · rw [hmutated] at h
      cases h
    · rw [hclients]
      exact hinv.edits other edit hfound

/-- A step that disturbs no edit in flight. -/
def Step (runtime : Runtime) (system : System) (event : Event) (next : System) : Prop :=
  ∃ action, Undisturbed system action ∧ perform runtime system action = some (event, next)

theorem Inv.step {runtime : Runtime} {system next : System} {event : Event} (hinv : Inv system)
    (hstep : Step runtime system event next) : Inv next := by
  obtain ⟨action, hundisturbed, hperform⟩ := hstep
  cases action with
  | tick elapsed =>
    cases hperform
    exact ⟨hinv.keys, hinv.distinct, hinv.edits⟩
  | surround surroundings =>
    cases hperform
    exact ⟨hinv.keys, hinv.distinct, hinv.edits⟩
  | loadEdit call actor clientId input =>
    rw [perform] at hperform
    split at hperform
    · rename_i edit hload
      refine hinv.start_call ?_ hperform
      intro found hfound
      cases hfound
      exact loadEdit_loaded hinv.keys hinv.distinct hload
    · cases hperform
  | loadRotation call actor clientId storedClientSecret =>
    rw [perform] at hperform
    split at hperform
    · rename_i task hload
      refine hinv.start_call ?_ hperform
      unfold loadRotation at hload
      obtain ⟨-, hload⟩ := throwIf_bind_eq_ok_iff.mp hload
      obtain ⟨client, -, hload⟩ := bind_eq_ok_iff.mp hload
      obtain ⟨-, hload⟩ := throwIf_bind_eq_ok_iff.mp hload
      cases hload
      intro edit hedit
      cases hedit
    · cases hperform
  | loadStatus call actor clientId disabled =>
    rw [perform] at hperform
    split at hperform
    · rename_i task hload
      refine hinv.start_call ?_ hperform
      unfold loadStatus at hload
      obtain ⟨-, hload⟩ := throwIf_bind_eq_ok_iff.mp hload
      obtain ⟨client, -, hload⟩ := bind_eq_ok_iff.mp hload
      cases hload
      intro edit hedit
      cases hedit
    · cases hperform
  | readClock call =>
    obtain ⟨htables, hflight⟩ := inFlight_of_readClock hperform
    refine ⟨htables.symm ▸ hinv.keys, htables.symm ▸ hinv.distinct, ?_⟩
    intro other edit hother
    rw [htables]
    exact hinv.edits other edit (hflight other edit hother)
  | commit call event start delays => exact hinv.commit hundisturbed hperform

/-- What an edit does to the row that it finds. -/
structure Edit.Replaces (edit : Edit) (before after : Tables) (old new : ClientRow) : Prop where
  found : old ∈ before.clients
  written : new ∈ after.clients
  oldId : old.id = edit.guard.clientRowId
  newId : new.id = edit.guard.clientRowId
  version : old.updatedAt = edit.client.updatedAt
  loaded : old.toClientSettings = edit.client.toClientSettings
  settings : new.toClientSettings = edit.settings
  permissions : SameSet (old.scopes.getD []) (new.scopes.getD []) ∧
      SameSet (old.grantTypes.getD []) (new.grantTypes.getD []) ∨
    after.NoTokens edit.guard.clientId ∧ after.NoCodes edit.guard.clientId ∧
      after.NoConsents edit.guard.clientId
  redirectUris : SameSet old.redirectUris new.redirectUris ∨
    after.NoCodes edit.guard.clientId ∧ after.NoConsents edit.guard.clientId

/-- A batch that changes its client replaces the settings that its edit has loaded, which no
other has changed since, and leaves no grant that it withdraws. -/
def Event.Lossless : Event → Prop
  | .committed (.edit edit) _ before after =>
    edit.overtaken = false ∧ ∃ old new, edit.Replaces before after old new
  | .committed (.status guard disabled) _ _ after =>
    disabled = true → after.NoTokens guard.clientId ∧ after.NoCodes guard.clientId
  | .committed (.rotateSecret _ _) _ _ _ => True
  | .other => True

theorem Edit.replaces {edit : Edit} {now : Int} {event : AuditRow} {times : Nat → Int} {tables after : Tables}
    (hkeys : (tables.clients.map (·.id)).Nodup) (hfresh : ¬ tables.HasAudit event.id) (hloaded : edit.Loaded)
    (hwatches : edit.Watches tables.clients)
    (hafter : after = (Request.run event times tables ((Task.edit edit).request now)).tables)
    (hmutated : (Request.run event times tables ((Task.edit edit).request now)).mutated = true)
    (haccepted : ((Task.edit edit).request now).Accepted times tables) :
    edit.overtaken = false ∧ ∃ old new, edit.Replaces tables after old new := by
  obtain ⟨⟨old, hold, hid, -, -, hversion⟩, -⟩ := haccepted
  have hexpected : old.updatedAt = edit.client.updatedAt := hversion edit.client.updatedAt rfl
  obtain ⟨hovertaken, hsettings⟩ := hwatches old hold (hid.trans hloaded.row)
  have hcurrent : edit.overtaken = false := by
    rw [← Bool.not_eq_true]
    exact fun h => hovertaken h hexpected
  have haudited : Audited event tables (Request.Effect tables · ((Task.edit edit).request now))
      (Request.run event times tables ((Task.edit edit).request now)) :=
    patch_audited hkeys hfresh edit.guard edit.client.updatedAt edit.settings edit.changes now
  have heffect := haudited.whole (haudited.together.mp hmutated)
  rw [← hafter] at heffect
  obtain ⟨hclients, hgrants, htokens⟩ := heffect
  have hreplaced := hsettings hcurrent
  refine ⟨hcurrent, old, ClientRow.edited edit.settings now old, hold, ?_, hid, hid, hexpected, hreplaced, rfl,
    ?_, ?_⟩
  · rw [hclients]
    exact table.change_mem_update hold hid
  · refine or_iff_not_imp_left.mpr fun hchanged => ?_
    have hpermissions : edit.changes.permissions = true := by
      apply hloaded.permissions
      rw [← hreplaced]
      exact hchanged
    exact ⟨htokens hpermissions, hgrants (.inr hpermissions)⟩
  · refine or_iff_not_imp_left.mpr fun hchanged => hgrants (.inl ?_)
    apply hloaded.redirectUris
    rw [← hreplaced]
    exact hchanged

theorem Inv.lossless {system next : System} {recorded : Event} {call : Text} {event : AuditRow} {start : Int}
    {delays : List Nat} (hinv : Inv system)
    (hundisturbed : Undisturbed system (.commit call event start delays))
    (hcommit : system.commit call event start delays = some (recorded, next)) : recorded.Lossless := by
  obtain ⟨task, collided, now, hcall, hfresh, htables, rfl, -⟩ := inFlight_of_commit hcommit
  have hsteady := (hundisturbed task collided now hcall).2
  split
  · rename_i hmutated
    rcases run_clients hinv.keys hfresh (instants_monotone start delays) task now with
      ⟨-, haccepted, -⟩ | ⟨hnot, -⟩
    · cases task with
      | edit edit =>
        obtain ⟨hloaded, hwatches⟩ := hinv.edits call edit ⟨_, hcall, rfl⟩
        exact Edit.replaces hinv.keys hfresh hloaded hwatches htables hmutated haccepted
      | rotateSecret guard storedClientSecret => trivial
      | status guard disabled =>
        rintro rfl
        have haudited := (status_audited_iff hinv.keys hfresh (instants_monotone start delays) guard true now).mpr
          (hsteady guard rfl)
        have heffect := haudited.whole (haudited.together.mp hmutated)
        rw [htables]
        exact heffect.2 rfl
    · rw [hmutated] at hnot
      cases hnot
  · trivial

theorem Inv.step_lossless {runtime : Runtime} {system next : System} {event : Event} (hinv : Inv system)
    (hstep : Step runtime system event next) : event.Lossless := by
  obtain ⟨action, hundisturbed, hperform⟩ := hstep
  have hstarted : ∀ {call : Text} {task : Task}, system.start call task = some (event, next) →
      event.Lossless := by
    intro call task hstart
    unfold System.start at hstart
    split at hstart
    · cases hstart
    · cases hstart
      trivial
  cases action with
  | tick elapsed =>
    cases hperform
    trivial
  | surround surroundings =>
    cases hperform
    trivial
  | loadEdit call actor clientId input =>
    rw [perform] at hperform
    split at hperform
    · exact hstarted hperform
    · cases hperform
  | loadRotation call actor clientId storedClientSecret =>
    rw [perform] at hperform
    split at hperform
    · exact hstarted hperform
    · cases hperform
  | loadStatus call actor clientId disabled =>
    rw [perform] at hperform
    split at hperform
    · exact hstarted hperform
    · cases hperform
  | readClock call =>
    rw [perform, System.readClock] at hperform
    split at hperform
    · cases hperform
    · cases hperform
      trivial
  | commit call event start delays => exact hinv.lossless hundisturbed hperform

theorem inv_of_trace {runtime : Runtime} {past : List Event} {system : System}
    (hrun : Trace System.Start (Step runtime) past system) : Inv system := by
  induction hrun with
  | start hfirst => exact Inv.start hfirst
  | step _ hstep ih => exact Inv.step ih hstep

/-- Along every run that disturbs no edit in flight, the edits of clients lose no update of
each other and leave no grant that they withdraw. -/
theorem client_edits_lossless {runtime : Runtime} {past : List Event} {system : System}
    (hrun : Trace System.Start (Step runtime) past system) : ∀ event ∈ past, event.Lossless := by
  induction hrun with
  | start => exact fun _ hevent => absurd hevent List.not_mem_nil
  | step hbefore hstep ih =>
    intro event hevent
    rcases List.mem_append.mp hevent with hearlier | hlast
    · exact ih event hearlier
    · rw [List.mem_singleton.mp hlast]
      exact (inv_of_trace hbefore).step_lossless hstep

/-- A client of which two edits have loaded one version: the first to commit writes the next
millisecond, a status request writes the clock, and the other commits too. -/
def contested : System where
  tables := { managedTables with
    sessions := [{ id := Text.of "session", userId := Text.of "actor", expiresAt := 2000 }]
    clients := managedTables.clients.map fun row => { row with
      name := some (Text.of "name"), updatedAt := some 1000
      metadata := [(DEVELOPER_NAME_METADATA_KEY, .text (Text.of "developer"))] } }
  clock := 1000
  calls := fun _ => none

def administrator : AdminActor where
  commitGuard :=
    { expectedEmail := Text.of "admin@mail.example", expectedRole := some .admin, sessionId := Text.of "session"
      userId := Text.of "actor" }
  role := .admin
  userId := Text.of "actor"

def production : Runtime where
  environment := .production
  parseUrl := fun _ => none

def successEvent (id : Text) (eventType : ClientEvent) : AuditRow :=
  { id, eventType, clientId := Text.of "client", actorUserId := Text.of "actor" }

def newName : UpdateClientInput :=
  { expectedUpdatedAt := .instant 1000, name := some (.text (Text.of "new name")) }

def contest : List Action :=
  [ .loadEdit (Text.of "late") administrator (Text.of "client")
      { expectedUpdatedAt := .instant 1000, uri := some .null },
    .loadEdit (Text.of "first") administrator (Text.of "client") newName,
    .readClock (Text.of "first"), .readClock (Text.of "first"),
    .commit (Text.of "first") (successEvent (Text.of "event 1") .updated) 1000 [],
    .loadStatus (Text.of "status") administrator (Text.of "client") false,
    .readClock (Text.of "status"),
    .commit (Text.of "status") (successEvent (Text.of "event 2") .enabled) 1000 [],
    .readClock (Text.of "late"), .readClock (Text.of "late"),
    .commit (Text.of "late") (successEvent (Text.of "event 3") .updated) 1000 [] ]

theorem contested_start : contested.Start where
  keys := by decide
  distinct := by decide
  idle := fun _ => rfl

def Call.isEdit (call : Call) : Bool :=
  match call.task with
  | .edit _ => true
  | _ => false

/-- The edit that has committed. -/
def Event.edit : Event → Option Edit
  | .committed (.edit edit) _ _ _ => some edit
  | _ => none

theorem client_edits_lossless_fails :
    ¬ ∀ (runtime : Runtime) (past : List Event) (system : System),
      Trace System.Start (fun state event next => ∃ action, perform runtime state action = some (event, next))
        past system →
      ∀ event ∈ past, event.Lossless := by
  intro h
  have hlossless := h production _ _ (replay_trace contested_start contest)
  have hlost : (replay (perform production) contested contest).1.any
      (fun event => event.edit.any (·.overtaken)) = true := by
    decide
  obtain ⟨event, hevent, hovertaken⟩ := List.any_eq_true.mp hlost
  have hevent := hlossless event hevent
  unfold Event.edit at hovertaken
  split at hovertaken
  · rw [Option.any_some, hevent.1] at hovertaken
    cases hovertaken
  · cases hovertaken

/-- The second edit without the others. -/
def prepared : List Event × System :=
  replay (perform production) contested
    [ .loadEdit (Text.of "first") administrator (Text.of "client") newName,
      .readClock (Text.of "first"), .readClock (Text.of "first") ]

theorem client_edits_lossless_single :
    ∃ event edit, Event.edit event = some edit ∧ edit.settings.name = some (Text.of "new name") ∧
      event.Lossless := by
  have htrace : Trace System.Start (Step production) prepared.1 prepared.2 := by
    apply replay_trace_of_allowed contested_start
    intro action haction state
    simp only [List.mem_cons, List.not_mem_nil, or_false] at haction
    rcases haction with rfl | rfl | rfl <;> trivial
  let commit : Action :=
    .commit (Text.of "first") (successEvent (Text.of "event 1") .updated) 1001 []
  have hundisturbed : Undisturbed prepared.2 commit := by
    intro task collided now hcall
    refine ⟨?_, ?_⟩
    · rintro - other edit hne ⟨pending, hpending, -⟩
      have hupdate : ∀ (calls : Text → Option Call) (call : Option Call), calls other = none →
          Function.update calls (Text.of "first") call other = none :=
        fun calls call h => (Function.update_of_ne hne call calls).trans h
      have hidle : prepared.2.calls other = none := hupdate _ _ (hupdate _ _ (hupdate _ _ rfl))
      rw [hidle] at hpending
      cases hpending
    · rintro guard rfl
      have hedit : (prepared.2.calls (Text.of "first")).any Call.isEdit = true := by
        decide
      rw [hcall] at hedit
      cases hedit
  have hrenames : (perform production prepared.2 commit).any (fun performed =>
      performed.1.edit.any fun edit => edit.settings.name = some (Text.of "new name")) = true := by
    decide
  obtain ⟨⟨event, next⟩, hperform, hrenames⟩ := Option.any_eq_true _ _ |>.mp hrenames
  obtain ⟨edit, hedit, hname⟩ := Option.any_eq_true _ _ |>.mp hrenames
  have hrun : Trace System.Start (Step production) (prepared.1 ++ [event]) next :=
    .step htrace ⟨commit, hundisturbed, hperform⟩
  have hlossless := client_edits_lossless hrun event (List.mem_append_right _ List.mem_cons_self)
  exact ⟨event, edit, hedit, of_decide_eq_true hname, hlossless⟩

end pgid.management
