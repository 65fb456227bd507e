import ZFBaseFramework.Manager.Calls

/-!
# Replies with an error status

`didReceiveResponse` does not look at the status, so it is up to the stated length
whether the body of an error reply is let through. `run_errorRepliesKeptOut` shows
that it stays out of the files as long as every error reply states less than what the
tmp file holds, or exactly what a whole tmp file holds.
-/

namespace ZFBaseFramework

open ZFFileManagerTool World

/-- The body of the reply is content of the resource. -/
def NSHTTPURLResponse.HasContent (response : NSHTTPURLResponse) : Prop :=
  response.statusCode = 200 ∨ response.statusCode = 206

instance (response : NSHTTPURLResponse) : Decidable response.HasContent :=
  inferInstanceAs (Decidable (_ ∨ _))

/-- The task was answered with an error status. -/
def AnsweredWithError (world : World) (task : TaskId) : Prop :=
  ∃ record response, world.tasks task = some record ∧ record.reply = some response ∧
    ¬response.HasContent

/-- The tmp file of a task's downloader is the whole resource the task asked for. -/
def HoldsWhole (content : NSURL → List UInt8) (world : World) (task : TaskId) : Prop :=
  ∃ record path, world.tasks task = some record ∧
    (world.downLoaders record.delegate).downLoadTmpPath = some path ∧
    world.files.lookup path = some (.file (content record.originalURL))

/-- An effect by which a download counts as finished. -/
def Credits : Effect → Prop
  | .state _ _ .success => True
  | .success _ _ _ => True
  | .placed _ _ => True
  | _ => False

/-- What a step does with a task that was answered with an error status. -/
structure KeepsOut (content : NSURL → List UInt8) (world : World) (event : DelegateEvent) :
    Prop where
  /-- Its body does not get into the tmp file. -/
  discarded : AnsweredWithError (world.deliver event) event.task →
    ∀ loader task bytes, ¬world.Emits (world.deliver event) (.appended loader task bytes)
  /-- The download counts as finished only if the tmp file was whole. -/
  credited : AnsweredWithError (world.deliver event) event.task →
    ∀ effect, Credits effect → world.Emits (world.deliver event) effect →
      HoldsWhole content world event.task

/-- No error reply becomes content. -/
structure ErrorRepliesKeptOut (digest : MessageDigest) (content : NSURL → List UInt8)
    (files : FileSystem Path) (actions : List ManagerAction) : Prop where
  /-- No step of the run lets one in. -/
  steps : (managerSystem digest).Along
    (fun world action => ∀ event, action = .deliver event → KeepsOut content world event)
    (launch files) actions
  /-- Unless a file was placed for it, a later download asks the server for the missing bytes. -/
  asks : ∀ url blocks, ¬files.Occupied url.cachePath →
    let world := (managerSystem digest).exec (launch files) actions
    (∀ loader, .placed loader (some url.cachePath) ∉ world.log) →
    world.registered digest url = none →
    world.Emits (world.call digest (.downLoad url blocks))
      (.requested world.downLoaderCount world.taskCount url
        (fileTotalSize world.files (some (url.tmpPath digest))))

/-- An error reply states a length below the tmp size, or the size of a whole tmp file. -/
def Discards (content : NSURL → List UInt8) (world : World) : ManagerAction → Prop
  | .deliver (.response task response _) =>
      response.HasContent ∨
        response.totalSize < (world.downLoaders (world.delegateOf task)).tmpSize ∨
        response.totalSize = (world.downLoaders (world.delegateOf task)).tmpSize ∧
          HoldsWhole content world task
  | _ => True

/-- Only the body of a reply with content is let through. -/
def Screened (world : World) : Prop :=
  ∀ task record, world.tasks task = some record → record.phase = .allowed →
    ∃ response, record.reply = some response ∧ response.HasContent

/-- What is in `Caches` was there from the start or was placed by a download. -/
structure Accounted (files : FileSystem Path) (world : World) : Prop where
  tmpPath : ∀ {loader path}, (world.downLoaders loader).downLoadTmpPath = some path →
    path.directory = .tmp
  cached : ∀ {path : Path}, path.directory = .caches → world.files.Occupied path →
    files.Occupied path ∨ ∃ loader, .placed loader (some path) ∈ world.log

theorem DataTask.reply_eq {first second : DataTask} (agree : first.unflagged = second.unflagged) :
    first.reply = second.reply :=
  show first.unflagged.reply = second.unflagged.reply from agree ▸ rfl

section Screening

variable {digest : MessageDigest} {content : NSURL → List UInt8} {world after : World}
  {task : TaskId} {record changed : DataTask} {fields : ZFDownLoader}

theorem screened_launch (files : FileSystem Path) : Screened (launch files) := by
  intro task record found
  cases found

namespace Screened

theorem of_unflagged (screened : Screened world)
    (tasks : ∀ task, (after.tasks task).map DataTask.unflagged =
      (world.tasks task).map DataTask.unflagged) : Screened after := by
  intro task record found allowed
  rcases DataTask.exists_of_unflagged (tasks task) found with ⟨before, foundBefore, agree⟩
  rw [← DataTask.phase_eq agree] at allowed
  rw [← DataTask.reply_eq agree]
  exact screened task before foundBefore allowed

theorem of_touches (screened : Screened world) {loader : DownLoaderId}
    (touches : world.Touches after loader fields task changed)
    (replied : changed.phase = .allowed →
      ∃ response, changed.reply = some response ∧ response.HasContent) : Screened after := by
  intro other otherRecord found allowed
  by_cases same : other = task
  · subst same
    rw [touches.tasks, Function.update_self, Option.some.injEq] at found
    subst found
    exact replied allowed
  · rw [touches.tasks, Function.update_of_ne same] at found
    exact screened other otherRecord found allowed

theorem response (screened : Screened world) {response : NSHTTPURLResponse} {io : LocalIO}
    (deliverable : world.Deliverable (.response task response io))
    (discards : Discards content world (.deliver (.response task response io))) :
    Screened (world.deliver (.response task response io)) := by
  rcases exists_of_response deliverable with ⟨record, found, waiting⟩
  rw [Discards, delegateOf_eq found] at discards
  rcases lt_trichotomy ((world.downLoaders record.delegate).tmpSize : ℤ) response.totalSize with
    short | full | oversized
  · apply screened.of_touches (touches_opened io found short)
    intro _
    refine ⟨response, rfl, discards.resolve_right ?_⟩
    rintro (below | ⟨same, _⟩)
    · exact absurd below (by omega)
    · exact absurd same (by omega)
  · exact screened.of_touches (touches_finished io found full) nofun
  · rcases deliver_restarted_spec io found oversized with ⟨_, tasks, _, _, _⟩
    intro other otherRecord otherFound allowed
    rw [tasks] at otherFound
    by_cases fresh : other = world.taskCount
    · subst fresh
      rw [Function.update_self, Option.some.injEq] at otherFound
      subst otherFound
      cases allowed
    · rw [Function.update_of_ne fresh] at otherFound
      by_cases same : other = task
      · subst same
        rw [Function.update_self, Option.some.injEq] at otherFound
        subst otherFound
        cases allowed
      · rw [Function.update_of_ne same] at otherFound
        exact screened other otherRecord otherFound allowed

theorem deliver (screened : Screened world) {event : DelegateEvent}
    (deliverable : world.Deliverable event) (discards : Discards content world (.deliver event)) :
    Screened (world.deliver event) := by
  cases event with
  | response task response io => exact screened.response deliverable discards
  | data task bytes io =>
      rcases exists_of_data deliverable with ⟨record, found, allowed⟩
      exact screened.of_touches (touches_data bytes io found) fun _ =>
        screened task record found allowed
  | complete task error io =>
      rcases exists_of_complete deliverable with ⟨record, found, _, _⟩
      exact screened.of_touches (touches_complete error io found) nofun

theorem begin (screened : Screened world) {url : NSURL} {blocks : ClientBlocks}
    (unregistered : world.registered digest url = none) :
    Screened (world.begin digest url blocks) := by
  by_cases occupied : world.files.Occupied url.cachePath
  · have begins := begin_cached blocks unregistered occupied
    intro task record found allowed
    rw [begins.tasks] at found
    exact screened task record found allowed
  · have begins := begin_task digest blocks occupied
    have marked : Screened
        ((world.register (url.key digest)).cancel world.downLoaderCount) :=
      screened.of_unflagged unflagged_cancel
    intro task record found allowed
    rw [begins.tasks] at found
    by_cases fresh : task = world.taskCount
    · subst fresh
      rw [Function.update_self, Option.some.injEq] at found
      subst found
      cases allowed
    · rw [Function.update_of_ne fresh] at found
      exact marked task record found allowed

theorem kill : Screened world.kill := by
  intro task record found allowed
  simp only [World.kill, Option.map_eq_some_iff] at found
  rcases found with ⟨before, _, rfl⟩
  cases allowed

end Screened

theorem screened_preserved (digest : MessageDigest) (content : NSURL → List UInt8) :
    ((managerSystem digest).restrict (Discards content)).Preserves Screened := by
  rintro world action screened ⟨admitted, discards⟩
  cases action with
  | call call =>
      apply call_induction (motive := Screened) screened
      · intro middle loader screened
        exact screened.of_unflagged unflagged_switch
      · intro middle loader screened
        exact screened.of_unflagged unflagged_switch
      · intro middle loader screened
        exact screened.of_unflagged unflagged_cancel
      · intro url blocks _ unregistered
        exact screened.begin unregistered
  | deliver event => exact screened.deliver admitted discards
  | kill => exact Screened.kill

theorem answeredWithError_iff {loader : DownLoaderId}
    (touches : world.Touches after loader fields task changed) :
    AnsweredWithError after task ↔
      ∃ response, changed.reply = some response ∧ ¬response.HasContent := by
  simp [AnsweredWithError, touches.tasks]

/-- An error reply that meets the condition is refused, and credited only to a whole file. -/
theorem keepsOut_response {response : NSHTTPURLResponse} {io : LocalIO}
    (deliverable : world.Deliverable (.response task response io))
    (discards : Discards content world (.deliver (.response task response io))) :
    KeepsOut content world (.response task response io) := by
  rcases exists_of_response deliverable with ⟨record, found, waiting⟩
  rw [Discards, delegateOf_eq found] at discards
  rcases lt_trichotomy ((world.downLoaders record.delegate).tmpSize : ℤ) response.totalSize with
    short | full | oversized
  · have answered : ¬AnsweredWithError (world.deliver (.response task response io)) task := by
      rw [answeredWithError_iff (touches_opened io found short)]
      rintro ⟨_, ⟨⟩, failed⟩
      rcases discards with content | below | ⟨same, _⟩
      · exact failed content
      · exact absurd below (by omega)
      · exact absurd same (by omega)
    exact ⟨fun error => absurd error answered, fun error => absurd error answered⟩
  · have logged := log_finished io found full
    constructor
    · intro _ loader other bytes emitted
      rw [emits_iff logged, placement] at emitted
      split at emitted <;> simp at emitted
    · intro error effect _ _
      rcases (answeredWithError_iff (touches_finished io found full)).mp error with ⟨_, ⟨⟩, failed⟩
      rcases discards with content | below | ⟨_, whole⟩
      · exact absurd content failed
      · exact absurd below (by omega)
      · exact whole
  · have logged := log_restarted io found oversized
    constructor
    · intro _ loader other bytes emitted
      rw [emits_iff logged, removal] at emitted
      split at emitted <;> simp at emitted
    · intro _ effect credits emitted
      rw [emits_iff logged, removal] at emitted
      split at emitted <;>
        simp only [List.cons_append, List.nil_append, List.mem_cons, List.not_mem_nil,
          or_false] at emitted
      · rcases emitted with rfl | rfl | rfl <;> cases credits
      · rcases emitted with rfl | rfl <;> cases credits

/-- A body is let through only after a reply with content. -/
theorem keepsOut_of_allowed (screened : Screened world) {event : DelegateEvent}
    (found : world.tasks event.task = some record) (allowed : record.phase = .allowed)
    (touches : world.Touches (world.deliver event) record.delegate fields event.task changed)
    (replied : changed.reply = record.reply) : KeepsOut content world event := by
  rcases screened event.task record found allowed with ⟨response, kept, hasContent⟩
  have answered : ¬AnsweredWithError (world.deliver event) event.task := by
    rw [answeredWithError_iff touches, replied, kept]
    rintro ⟨_, ⟨⟩, failed⟩
    exact failed hasContent
  exact ⟨fun error => absurd error answered, fun error => absurd error answered⟩

theorem keepsOut (screened : Screened world) {event : DelegateEvent}
    (deliverable : world.Deliverable event) (discards : Discards content world (.deliver event)) :
    KeepsOut content world event := by
  cases event with
  | response task response io => exact keepsOut_response deliverable discards
  | data task bytes io =>
      rcases exists_of_data deliverable with ⟨record, found, allowed⟩
      exact keepsOut_of_allowed screened found allowed (touches_data bytes io found) rfl
  | complete task error io =>
      rcases exists_of_complete deliverable with ⟨record, found, _, allowed⟩
      cases error with
      | none =>
          have touches := touches_complete none io found
          exact keepsOut_of_allowed screened found (allowed rfl) touches rfl
      | some failure =>
          have logged := log_complete_failed io found failure
          constructor
          · intro _ loader other bytes emitted
            rw [emits_iff logged] at emitted
            simp at emitted
          · intro _ effect credits emitted
            rw [emits_iff logged] at emitted
            simp only [List.mem_cons, List.not_mem_nil, or_false] at emitted
            rcases emitted with rfl | rfl <;> cases credits

end Screening

section Accounting

variable {digest : MessageDigest} {files : FileSystem Path} {world after : World} {task : TaskId}
  {record : DataTask} {fields : ZFDownLoader}

theorem accounted_launch (files : FileSystem Path) : Accounted files (launch files) where
  tmpPath := nofun
  cached _ occupied := Or.inl occupied

namespace Accounted

/-- A step that gives one downloader other fields and brings nothing new into `Caches` but
what it records. -/
theorem of_update (accounted : Accounted files world) {loader : DownLoaderId}
    (downLoaders : after.downLoaders = Function.update world.downLoaders loader fields)
    (tmpPath : fields.downLoadTmpPath = (world.downLoaders loader).downLoadTmpPath ∨
      ∃ (digest : MessageDigest) (url : NSURL), fields.downLoadTmpPath = some (url.tmpPath digest))
    {fresh : List Effect} (logged : after.log = fresh ++ world.log)
    (cached : ∀ {path : Path}, path.directory = .caches → after.files.Occupied path →
      world.files.Occupied path ∨ ∃ loader, .placed loader (some path) ∈ fresh) :
    Accounted files after := by
  constructor
  · intro other path held
    rw [downLoaders] at held
    by_cases mine : other = loader
    · rw [mine, Function.update_self] at held
      rcases tmpPath with same | ⟨digest, url, assigned⟩
      · exact accounted.tmpPath (same ▸ held)
      · rw [assigned, NSURL.tmpPath_eq] at held
        cases held
        rfl
    · rw [Function.update_of_ne mine] at held
      exact accounted.tmpPath held
  · intro path directory occupied
    rw [logged]
    rcases cached directory occupied with before | ⟨placer, placed⟩
    · rcases accounted.cached directory before with initially | ⟨placer, placed⟩
      · exact Or.inl initially
      · exact Or.inr ⟨placer, List.mem_append_right _ placed⟩
    · exact Or.inr ⟨placer, List.mem_append_left _ placed⟩

/-- A path into `Caches` is not that of a tmp file. -/
theorem ne_tmpPath (accounted : Accounted files world) {loader : DownLoaderId} {path tmp : Path}
    (directory : path.directory = .caches)
    (held : (world.downLoaders loader).downLoadTmpPath = some tmp) : path ≠ tmp := by
  rintro rfl
  rw [accounted.tmpPath held] at directory
  cases directory

/-- A move of a tmp file records where it goes. -/
theorem of_moveTmp (accounted : Accounted files world) {loader : DownLoaderId} {io : LocalIO}
    {path : Path} (directory : path.directory = .caches)
    (occupied : (if io.moves then moveFile world.files (world.downLoaders loader).downLoadTmpPath
      (world.downLoaders loader).downLoadCachePath else world.files).Occupied path) :
    world.files.Occupied path ∨
      ∃ placer, Effect.placed placer (some path) ∈ world.placement loader io := by
  split at occupied
  · rename_i moving
    cases source : (world.downLoaders loader).downLoadTmpPath with
    | none =>
        rw [source] at occupied
        exact Or.inl occupied
    | some tmp =>
        cases target : (world.downLoaders loader).downLoadCachePath with
        | none =>
            rw [source, target] at occupied
            exact Or.inl occupied
        | some cache =>
            rw [source, target, moveFile] at occupied
            split at occupied
            · rename_i movable
              by_cases same : path = cache
              · subst same
                refine Or.inr ⟨loader, ?_⟩
                rw [placement, source, target, if_pos ⟨moving, movable⟩]
                exact List.mem_singleton_self _
              · rw [FileSystem.Occupied, FileSystem.lookup_move, if_neg same,
                  if_neg (accounted.ne_tmpPath directory source)] at occupied
                exact Or.inl occupied
            · exact Or.inl occupied
  · exact Or.inl occupied

theorem response (accounted : Accounted files world) {response : NSHTTPURLResponse} {io : LocalIO}
    (deliverable : world.Deliverable (.response task response io)) :
    Accounted files (world.deliver (.response task response io)) := by
  rcases exists_of_response deliverable with ⟨record, found, _⟩
  rcases lt_trichotomy ((world.downLoaders record.delegate).tmpSize : ℤ) response.totalSize with
    short | full | oversized
  · refine accounted.of_update (touches_opened io found short).downLoaders (Or.inl rfl)
      (log_opened io found short) ?_
    intro path directory occupied
    rw [files_opened io found short] at occupied
    cases held : (world.downLoaders record.delegate).downLoadTmpPath with
    | none =>
        rw [held] at occupied
        exact Or.inl occupied
    | some tmp =>
        rw [held, NSOutputStream.openAppending] at occupied
        split at occupied
        · rw [FileSystem.Occupied, FileSystem.lookup_touch,
            if_neg (accounted.ne_tmpPath directory held)] at occupied
          exact Or.inl occupied
        · exact Or.inl occupied
  · refine accounted.of_update (touches_finished io found full).downLoaders (Or.inl rfl)
      (log_finished io found full) ?_
    intro path directory occupied
    rw [files_finished io found full] at occupied
    rcases accounted.of_moveTmp directory occupied with before | ⟨placer, placed⟩
    · exact Or.inl before
    · exact Or.inr ⟨placer, by simp [placed]⟩
  · rcases deliver_restarted_spec io found oversized with ⟨downLoaders, _, _, _, _⟩
    refine accounted.of_update downLoaders (Or.inl rfl) (log_restarted io found oversized) ?_
    intro path directory occupied
    rw [files_restarted io found oversized] at occupied
    cases held : (world.downLoaders record.delegate).downLoadTmpPath with
    | none =>
        rw [held] at occupied
        exact Or.inl occupied
    | some tmp =>
        rw [held, removeFileAtPath] at occupied
        split at occupied
        · rw [FileSystem.Occupied, FileSystem.lookup_remove,
            if_neg (accounted.ne_tmpPath directory held)] at occupied
          exact Or.inl occupied
        · exact Or.inl occupied

theorem deliver (accounted : Accounted files world) {event : DelegateEvent}
    (deliverable : world.Deliverable event) : Accounted files (world.deliver event) := by
  cases event with
  | response task response io => exact accounted.response deliverable
  | data task bytes io =>
      rcases exists_of_data deliverable with ⟨record, found, _⟩
      refine accounted.of_update (touches_data bytes io found).downLoaders (Or.inl rfl)
        (log_data bytes io found) ?_
      intro path _ occupied
      rw [files_data bytes io found] at occupied
      split at occupied
      · exact Or.inl occupied
      · rw [FileSystem.Occupied, FileSystem.lookup_append] at occupied
        split at occupied
        · rw [Option.isSome_map] at occupied
          exact Or.inl occupied
        · exact Or.inl occupied
  | complete task error io =>
      rcases exists_of_complete deliverable with ⟨record, found, _, _⟩
      have downLoaders := (touches_complete error io found).downLoaders
      cases error with
      | none =>
          refine accounted.of_update downLoaders (Or.inl rfl) (log_complete_finished io found) ?_
          intro path directory occupied
          rw [files_complete_finished io found] at occupied
          rcases accounted.of_moveTmp directory occupied with before | ⟨placer, placed⟩
          · exact Or.inl before
          · exact Or.inr ⟨placer, by simp [placed]⟩
      | some failure =>
          refine accounted.of_update downLoaders (Or.inl rfl)
            (log_complete_failed io found failure) ?_
          intro path _ occupied
          rw [files_complete_failed io found failure] at occupied
          exact Or.inl occupied

theorem switch (accounted : Accounted files world) (loader : DownLoaderId)
    (source target : ZFDownLoaderState) (suspended : Bool) :
    Accounted files (world.switch loader source target suspended) := by
  have quiet : Without (fun _ => False) world (world.switch loader source target suspended) :=
    without_switch fun _ => id
  rcases quiet with ⟨fresh, logged, _⟩
  refine accounted.of_update downLoaders_switch (Or.inl rfl) logged ?_
  intro path _ occupied
  rw [files_switch] at occupied
  exact Or.inl occupied

theorem cancel (accounted : Accounted files world) (loader : DownLoaderId) :
    Accounted files (world.cancel loader) := by
  have logged : (world.cancel loader).log = [] ++ world.log := log_cancel
  refine accounted.of_update downLoaders_cancel (Or.inl rfl) logged ?_
  intro path _ occupied
  rw [files_cancel] at occupied
  exact Or.inl occupied

theorem begin (accounted : Accounted files world) {url : NSURL} {blocks : ClientBlocks}
    (unregistered : world.registered digest url = none) :
    Accounted files (world.begin digest url blocks) := by
  by_cases occupied : world.files.Occupied url.cachePath
  · have begins := begin_cached blocks unregistered occupied
    refine accounted.of_update begins.downLoaders (Or.inr ⟨digest, url, rfl⟩) begins.log ?_
    intro path _ occupied
    rw [begins.files] at occupied
    exact Or.inl occupied
  · have begins := begin_task digest blocks occupied
    refine accounted.of_update begins.downLoaders (Or.inr ⟨digest, url, rfl⟩) begins.log ?_
    intro path _ occupied
    rw [begins.files] at occupied
    exact Or.inl occupied

end Accounted

theorem accounted_preserved (digest : MessageDigest) (files : FileSystem Path) :
    (managerSystem digest).Preserves (Accounted files) := by
  intro world action accounted admitted
  cases action with
  | call call =>
      apply call_induction (motive := Accounted files) accounted
      · intro middle loader accounted
        exact accounted.switch loader _ _ _
      · intro middle loader accounted
        exact accounted.switch loader _ _ _
      · intro middle loader accounted
        exact accounted.cancel loader
      · intro url blocks _ unregistered
        exact accounted.begin unregistered
  | deliver event => exact accounted.deliver admitted
  | kill => exact ⟨nofun, accounted.cached⟩

end Accounting

/-- In every run whose error replies meet the condition, they stay out of the files. -/
theorem run_errorRepliesKeptOut {digest : MessageDigest} {content : NSURL → List UInt8}
    {files : FileSystem Path} {actions : List ManagerAction}
    (runs : ((managerSystem digest).restrict (Discards content)).Runs (launch files) actions) :
    ErrorRepliesKeptOut digest content files actions := by
  constructor
  · rw [← ActionSystem.along_restrict _ (Discards content)]
    apply (screened_preserved digest content).along _ (screened_launch files) runs
    rintro world action screened ⟨admitted, discards⟩ event rfl
    exact keepsOut screened admitted discards
  · intro url blocks free world unplaced unregistered
    have accounted : Accounted files world :=
      (accounted_preserved digest files).exec (accounted_launch files) runs.of_restrict
    have vacant : ¬world.files.Occupied url.cachePath := by
      intro occupied
      rcases accounted.cached url.directory_cachePath occupied with before | ⟨loader, placed⟩
      · exact free before
      · exact unplaced loader placed
    have begins := begin_task digest blocks vacant
    rw [World.call, managerDownLoadWithURL_unregistered unregistered, emits_iff begins.log]
    exact List.mem_cons_self

/-- The example's download over a whole tmp file, which the server answers with 416. -/
def unsatisfied : List ManagerAction :=
  [.call (.downLoad exampleURL exampleBlocks),
   .deliver (.response 0
     ((StatedReply.mk 416 none (some (.unsatisfied 2))).render exampleURL) .healthy),
   .deliver (.complete 0 (some .cancelled) .healthy)]

theorem run_errorRepliesKeptOut_unsatisfied : ErrorRepliesKeptOut exampleDigest (fun _ => [1, 2])
    (emptyContainer.put (exampleURL.tmpPath exampleDigest) (.file [1, 2])) unsatisfied := by
  refine run_errorRepliesKeptOut ⟨⟨trivial, trivial⟩, ⟨by decide, Or.inr (Or.inr ⟨by decide, ?_⟩)⟩,
    ⟨by decide, trivial⟩, trivial⟩
  exact ⟨_, _, rfl, rfl, by decide⟩

/-- An error page of two bytes. -/
def errorPage : List ManagerAction :=
  [.call (.downLoad exampleURL exampleBlocks),
   .deliver (.response 0 ((StatedReply.mk 404 (some 2) none).render exampleURL) .healthy),
   .deliver (.data 0 [60, 62] .healthy),
   .deliver (.complete 0 none .healthy)]

/-- The error page gets into the tmp file, and then to the cache path with Success. -/
theorem errorPage_not_keptOut :
    (managerSystem exampleDigest).Runs (launch emptyContainer) errorPage ∧
      ((managerSystem exampleDigest).exec (launch emptyContainer) errorPage).files.lookup
        exampleURL.cachePath = some (.file [60, 62]) ∧
      ¬ErrorRepliesKeptOut exampleDigest (fun _ => [1, 2, 3]) emptyContainer errorPage := by
  refine ⟨by decide, by decide, ?_⟩
  intro keptOut
  have data := (keptOut.steps.2.2.1 (.data 0 [60, 62] .healthy) rfl).discarded
    ⟨_, _, rfl, rfl, by decide⟩ 0 0 [60, 62]
  exact data ⟨[.appended 0 0 [60, 62], _], rfl, List.mem_cons_self⟩

end ZFBaseFramework
