import ZFBaseFramework.Manager.Ownership

/-!
# Requests from inside a callback

A client block that the framework calls may call the manager in turn. An `Activity`
is a world in the middle of methods: each pending entry is a running client block
with what is left of the method that called it. `returns_call` and `returns_deliver`
say that blocks which return at once give back the plain functions. A request is
answered exactly if the manager holds no downloader for the URL, and it holds the
old one from the cancellation or the announcement of Fail to the fail block:
`request_answered_iff`, `registered_until_complete`, `unregistered_by_failure`.
-/

namespace ZFBaseFramework

open ZFFileManagerTool World

/-- What is left of a method when a client block has returned. -/
inductive Frame where
  | settle (loader : DownLoaderId) (task : TaskId) (response : NSHTTPURLResponse) (io : LocalIO)
  | answer (task : TaskId) (phase : TaskPhase)
  | write (loader : DownLoaderId) (task : TaskId) (bytes : List UInt8) (io : LocalIO)
  | outcome (loader : DownLoaderId) (task : TaskId) (error : Option NSError)
  | release (loader : DownLoaderId) (task : TaskId)
  | announceCached (loader : DownLoaderId)
  | succeed (loader : DownLoaderId)
  | pauseRest (loaders : List DownLoaderId)
  | resumeRest (loaders : List DownLoaderId)
  | nothing

/-- A running client block, if one was set, with what is left of the method that called it. -/
structure Pending where
  block : Option BlockId
  rest : Frame

/-- The block that a switch of the downloader's state calls, if the switch takes place. -/
def switchBlock (world : World) (loader : DownLoaderId) (source : ZFDownLoaderState) :
    Option BlockId :=
  if (world.downLoaders loader).state = source then (world.downLoaders loader).dloadStateChange
  else none

/-- The client's part of a completion block. -/
def clientBlock (block : Option CompletionBlock) : Option BlockId :=
  block.bind CompletionBlock.client

/-- Go on with a method until it calls its next client block or is done. -/
def proceed (world : World) : Frame → World × Option Pending
  | .settle loader task response io =>
      let fields := world.downLoaders loader
      if (fields.tmpSize : ℤ) = fields.totalSize then
        ((world.moveTmp loader io).setState loader .success,
          some ⟨fields.dloadStateChange, .answer task .refused⟩)
      else if fields.totalSize < fields.tmpSize then
        (((world.removeTmp loader).answer task .refused).downLoadWithURLOffset loader response.url
          0,
          none)
      else
        ((world.openStream loader io).setState loader .downing,
          some ⟨fields.dloadStateChange, .answer task .allowed⟩)
  | .answer task phase => (world.answer task phase, none)
  | .write loader task bytes io => (world.writeBytes loader task bytes io, none)
  | .outcome loader task error =>
      (world.callOutcome loader error,
        some ⟨clientBlock (outcomeBlock (world.downLoaders loader) error), .release loader task⟩)
  | .release loader task => (world.releaseTask loader task, none)
  | .announceCached loader =>
      (world.setState loader .success,
        some ⟨(world.downLoaders loader).dloadStateChange, .succeed loader⟩)
  | .succeed loader =>
      (world.callSuccess loader,
        some ⟨clientBlock (world.downLoaders loader).dloadSuccess, .nothing⟩)
  | .pauseRest [] => (world, none)
  | .pauseRest (loader :: rest) =>
      (world.pause loader, some ⟨switchBlock world loader .downing, .pauseRest rest⟩)
  | .resumeRest [] => (world, none)
  | .resumeRest (loader :: rest) =>
      (world.resume loader, some ⟨switchBlock world loader .pause, .resumeRest rest⟩)
  | .nothing => (world, none)

/-- Enter a delegate method. -/
def enter (world : World) : DelegateEvent → World × Option Pending
  | .response task response io =>
      ((world.noteReply task response).readResponse (world.delegateOf task) response,
        some ⟨(world.downLoaders (world.delegateOf task)).dloadInfo,
          .settle (world.delegateOf task) task response io⟩)
  | .data task bytes io =>
      ((world.noteReceived task bytes.length).countBytes (world.delegateOf task) bytes,
        some ⟨(world.downLoaders (world.delegateOf task)).dloadInfo,
          .write (world.delegateOf task) task bytes io⟩)
  | .complete task error io =>
      (world.finish (world.delegateOf task) error io,
        some ⟨(world.downLoaders (world.delegateOf task)).dloadStateChange,
          .outcome (world.delegateOf task) task error⟩)

/-- Enter a method of the manager. -/
def invoke (digest : MessageDigest) (world : World) : ManagerCall → World × Option Pending
  | .downLoad url blocks =>
      match world.registered digest url with
      | some loader =>
          (world.resume loader, some ⟨switchBlock world loader .pause, .nothing⟩)
      | none =>
          if isFileExists world.files (some url.cachePath) then
            ((named digest (world.register (url.key digest)) world.downLoaderCount url
                (blocks.wrap (url.key digest))).reportCached world.downLoaderCount url,
              some ⟨blocks.progress, .announceCached world.downLoaderCount⟩)
          else (world.begin digest url blocks, none)
  | .pause url =>
      match world.registered digest url with
      | some loader => (world.pause loader, some ⟨switchBlock world loader .downing, .nothing⟩)
      | none => (world, none)
  | .resume url =>
      match world.registered digest url with
      | some loader => (world.resume loader, some ⟨switchBlock world loader .pause, .nothing⟩)
      | none => (world, none)
  | .cancel url => (world.send digest url World.cancel, none)
  | .pauseAll => (world, some ⟨none, .pauseRest (world.downLoaderInfos.entries.map Sigma.snd)⟩)
  | .resumeAll => (world, some ⟨none, .resumeRest (world.downLoaderInfos.entries.map Sigma.snd)⟩)
  | .cancelAll => (world.sendAll World.cancel, none)

/-- A world in the middle of methods, the innermost pending one first. -/
structure Activity where
  world : World
  pending : List Pending

/-- What can happen next in an activity. -/
inductive ReentrantAction where
  | call (call : ManagerCall)
  | deliver (event : DelegateEvent)
  | leave
  | kill

/-- A method was entered or gone on with on top of the pending ones. -/
def Activity.push (pending : List Pending) (result : World × Option Pending) : Activity :=
  ⟨result.1, result.2.toList ++ pending⟩

/-- The runs of the app in which client blocks call the manager. Events wait until the main
queue is free, and a block that was not set cannot call. -/
def reentrantSystem (digest : MessageDigest) : ActionSystem Activity ReentrantAction where
  Admits activity
    | .call _ => ∀ top ∈ activity.pending.head?, top.block.isSome
    | .deliver event => activity.pending = [] ∧ activity.world.Deliverable event
    | .leave => activity.pending ≠ []
    | .kill => True
  perform activity
    | .call call => .push activity.pending (invoke digest activity.world call)
    | .deliver event => .push activity.pending (enter activity.world event)
    | .leave =>
        match activity.pending with
        | [] => activity
        | top :: rest => .push rest (proceed activity.world top.rest)
    | .kill => ⟨activity.world.kill, []⟩

/-- The method is done in the final world, its own client blocks having returned at once. -/
inductive Returns : World × Option Pending → World → Prop where
  | done (world : World) : Returns (world, none) world
  | next {world final : World} {top : Pending} (returns : Returns (proceed world top.rest) final) :
      Returns (world, some top) final

/-- The entry answers a download call for the URL with these blocks. -/
def Answers (digest : MessageDigest) (url : NSURL) (blocks : ClientBlocks) : Effect → Prop
  | .requested _ _ other _ => other = url
  | .success _ block _ => block = (blocks.wrap (url.key digest)).success
  | .fail _ block => block = (blocks.wrap (url.key digest)).fail
  | _ => False

/-- A download call in this activity starts a task or calls one of its own outcome blocks. -/
def Answered (digest : MessageDigest) (activity : Activity) (url : NSURL) (blocks : ClientBlocks) :
    Prop :=
  ∃ final effect, Returns (invoke digest activity.world (.downLoad url blocks)) final ∧
    activity.world.Emits final effect ∧ Answers digest url blocks effect

section Returning

variable {digest : MessageDigest} {world : World}

/-- Returning at once is the same as leaving the pending blocks one after the other. -/
theorem exec_leave_of_returns {result : World × Option Pending} {final : World}
    (returns : Returns result final) (pending : List Pending) :
    ∃ count, (reentrantSystem digest).Runs (.push pending result)
        (List.replicate count .leave) ∧
      (reentrantSystem digest).exec (.push pending result) (List.replicate count .leave) =
        ⟨final, pending⟩ := by
  induction returns with
  | done world => exact ⟨0, trivial, rfl⟩
  | next _ ih =>
      rcases ih with ⟨count, runs, final⟩
      exact ⟨count + 1, ⟨List.cons_ne_nil _ _, runs⟩, final⟩

theorem returns_pauseRest (loaders : List DownLoaderId) :
    Returns (proceed world (.pauseRest loaders)) (loaders.foldl World.pause world) := by
  induction loaders generalizing world with
  | nil => exact .done world
  | cons loader rest ih => exact .next ih

theorem returns_resumeRest (loaders : List DownLoaderId) :
    Returns (proceed world (.resumeRest loaders)) (loaders.foldl World.resume world) := by
  induction loaders generalizing world with
  | nil => exact .done world
  | cons loader rest ih => exact .next ih

/-- A delegate method whose client blocks return at once is the plain delivery. -/
theorem returns_deliver (event : DelegateEvent) :
    Returns (enter world event) (world.deliver event) := by
  cases event with
  | response task response io =>
      apply Returns.next
      simp only [proceed, deliver, didReceiveResponse, settleResponse]
      split
      · exact .next (.done _)
      · split
        · exact .done _
        · exact .next (.done _)
  | data task bytes io => exact .next (.done _)
  | complete task error io => exact .next (.next (.done _))

/-- A call of the manager whose client blocks return at once is the plain call. -/
theorem returns_call (call : ManagerCall) :
    Returns (invoke digest world call) (world.call digest call) := by
  cases call with
  | downLoad url blocks =>
      rw [World.call, invoke]
      cases found : world.registered digest url with
      | some loader =>
          rw [managerDownLoadWithURL_registered found]
          exact .next (.done _)
      | none =>
          rw [managerDownLoadWithURL_unregistered found]
          by_cases occupied : isFileExists world.files (some url.cachePath) = true
          · have cached : (world.register (url.key digest)).files.Occupied url.cachePath :=
              of_decide_eq_true occupied
            simp only [occupied, if_true]
            rw [World.begin, call_cached cached]
            exact .next (.next (.next (.done _)))
          · simp only [occupied]
            exact .done _
  | pause url =>
      rw [World.call, invoke, send]
      cases world.registered digest url with
      | some loader => exact .next (.done _)
      | none => exact .done _
  | resume url =>
      rw [World.call, invoke, send]
      cases world.registered digest url with
      | some loader => exact .next (.done _)
      | none => exact .done _
  | cancel url => exact .done _
  | pauseAll => exact .next (returns_pauseRest _)
  | resumeAll => exact .next (returns_resumeRest _)
  | cancelAll => exact .done _

theorem Returns.unique {result : World × Option Pending} {first second : World}
    (firstReturns : Returns result first) (secondReturns : Returns result second) :
    first = second := by
  induction firstReturns with
  | done world =>
      cases secondReturns
      rfl
  | next _ ih =>
      cases secondReturns with
      | next returns => exact ih returns

end Returning

section Requests

variable {digest : MessageDigest} {world : World} {url : NSURL} {blocks : ClientBlocks}

variable (blocks) in
theorem answered_of_unregistered (unregistered : world.registered digest url = none) :
    ∃ effect, world.Emits (world.call digest (.downLoad url blocks)) effect ∧
      Answers digest url blocks effect := by
  rw [World.call, managerDownLoadWithURL_unregistered unregistered]
  by_cases occupied : world.files.Occupied url.cachePath
  · have begins := begin_cached blocks unregistered occupied
    exact ⟨_, ⟨_, begins.log, List.mem_cons_self⟩, rfl⟩
  · have begins := begin_task digest blocks occupied
    exact ⟨_, ⟨_, begins.log, List.mem_cons_self⟩, rfl⟩

theorem not_answered_of_registered {loader : DownLoaderId}
    (registered : world.registered digest url = some loader) {effect : Effect}
    (emitted : world.Emits (world.call digest (.downLoad url blocks)) effect) :
    ¬Answers digest url blocks effect := by
  rw [World.call, managerDownLoadWithURL_registered registered, World.resume] at emitted
  rcases emitted with ⟨fresh, logged, present⟩
  rw [log_switch] at logged
  split at logged
  · rw [← List.singleton_append, List.append_left_inj] at logged
    rw [← logged, List.mem_singleton] at present
    rw [present]
    exact id
  · rw [List.self_eq_append_left] at logged
    rw [logged] at present
    cases present

/-- No block runs that removes the URL's key, and the app is not killed. -/
def Unfinished (digest : MessageDigest) (url : NSURL) (world : World) : ManagerAction → Prop
  | .deliver (.complete task error _) =>
      (outcomeBlock (world.downLoaders (world.delegateOf task)) error).bind
        CompletionBlock.registryKey ≠ some (url.key digest)
  | .kill => False
  | _ => True

theorem registered_call {loader : DownLoaderId} (call : ManagerCall)
    (registered : world.registered digest url = some loader) :
    (world.call digest call).registered digest url = some loader := by
  have switched : ∀ {middle : World} {other source target suspended},
      middle.registered digest url = some loader →
      (middle.switch other source target suspended).registered digest url = some loader := by
    intro middle other source target suspended kept
    rwa [World.registered, downLoaderInfos_switch]
  apply call_induction (motive := fun after => after.registered digest url = some loader)
    registered
  · intro middle other kept
    exact switched kept
  · intro middle other kept
    exact switched kept
  · intro middle other kept
    rwa [World.registered, downLoaderInfos_cancel]
  · intro other blocks _ unregistered
    by_cases occupied : world.files.Occupied other.cachePath
    · rw [World.registered, (begin_cached blocks unregistered occupied).lookup]
      exact registered
    · rw [World.registered, (begin_task _ blocks occupied).lookup, if_neg]
      · exact registered
      · intro same
        rw [World.registered, same] at registered
        rw [World.registered, registered] at unregistered
        cases unregistered

/-- A step keeps the entry of a URL exactly if it is no completion with the URL's key and no
kill. -/
theorem registered_perform_iff {loader : DownLoaderId} {action : ManagerAction}
    (registered : world.registered digest url = some loader)
    (admitted : (managerSystem digest).Admits world action) :
    ((managerSystem digest).perform world action).registered digest url = some loader ↔
      Unfinished digest url world action := by
  cases action with
  | call call => exact iff_of_true (registered_call call registered) trivial
  | kill => exact iff_of_false nofun id
  | deliver event =>
      rcases (live_of_deliverable admitted).exists with ⟨record, found⟩
      cases event with
      | response task response io =>
          have infos := downLoaderInfos_response response io found
          exact iff_of_true ((congrArg (AList.lookup _) infos).trans registered) trivial
      | data task bytes io =>
          have infos := downLoaderInfos_data bytes io found
          exact iff_of_true ((congrArg (AList.lookup _) infos).trans registered) trivial
      | complete task error io =>
          have kept := congrArg (AList.lookup (url.key digest))
            (downLoaderInfos_complete error io found)
          rw [lookup_withoutKey] at kept
          have own : world.delegateOf task = record.delegate := delegateOf_eq found
          rw [Unfinished, own]
          by_cases removes : (outcomeBlock (world.downLoaders record.delegate) error).bind
              CompletionBlock.registryKey = some (url.key digest)
          · rw [if_pos removes] at kept
            exact iff_of_false (fun same => nomatch kept.symm.trans same)
              fun differs => differs removes
          · rw [if_neg removes] at kept
            exact iff_of_true (kept.trans registered) removes

/-- After a cancellation as after an announcement of Fail, the old downloader stays registered
until a completion block of the URL runs. -/
theorem registered_until_complete {loader : DownLoaderId} {actions : List ManagerAction}
    (registered : world.registered digest url = some loader)
    (runs : ((managerSystem digest).restrict (Unfinished digest url)).Runs world actions) :
    ((managerSystem digest).exec world actions).registered digest url = some loader := by
  have preserved : ((managerSystem digest).restrict (Unfinished digest url)).Preserves
      fun world => world.registered digest url = some loader := by
    rintro world action registered ⟨admitted, unfinished⟩
    exact (registered_perform_iff registered admitted).mpr unfinished
  exact preserved.exec registered runs

/-- The old downloader goes with its completion event, which a cancellation brings as well as a
failure: its fail block is called then, and the URL is free for a new request. -/
theorem unregistered_by_failure (owned : Owned world) {loader : DownLoaderId}
    (registered : world.registered digest url = some loader) {task : TaskId} {failure : NSError}
    {io : LocalIO} (deliverable : world.Deliverable (.complete task (some failure) io))
    (own : world.delegateOf task = loader) :
    let after := world.deliver (.complete task (some failure) io)
    world.Emits after (.fail loader (world.downLoaders loader).dlFail) ∧
      after.registered digest url = none := by
  rcases exists_of_complete deliverable with ⟨record, found, _⟩
  have held : record.delegate = loader := (delegateOf_eq found).symm.trans own
  subst held
  refine ⟨⟨_, log_complete_failed io found failure, List.mem_cons_self⟩, ?_⟩
  have keyed : (outcomeBlock (world.downLoaders record.delegate) (some failure)).bind
    CompletionBlock.registryKey = some (url.key digest) := (owned.entry registered).fail
  have gone := congrArg (AList.lookup (url.key digest))
    (downLoaderInfos_complete (some failure) io found)
  rwa [lookup_withoutKey, if_pos keyed] at gone

end Requests

/-- Wherever a download call is made, also from inside a callback, it is answered exactly if
the manager holds no downloader for the URL. -/
theorem request_answered_iff (digest : MessageDigest) (activity : Activity) (url : NSURL)
    (blocks : ClientBlocks) :
    Answered digest activity url blocks ↔ activity.world.registered digest url = none := by
  constructor
  · rintro ⟨final, effect, returns, emitted, answers⟩
    cases found : activity.world.registered digest url with
    | none => rfl
    | some loader =>
        rw [returns.unique (returns_call _)] at emitted
        exact absurd answers (not_answered_of_registered found emitted)
  · intro unregistered
    rcases answered_of_unregistered blocks unregistered with
      ⟨effect, emitted, answers⟩
    exact ⟨_, effect, returns_call _, emitted, answers⟩

/-- The example's download, cancelled before anything has arrived. -/
def cancelledEarly : List ReentrantAction :=
  [.call (.downLoad exampleURL exampleBlocks), .call (.cancel exampleURL)]

/-- The example's download fails, and its state block has just been called with Fail. -/
def failAnnounced : List ReentrantAction :=
  [.call (.downLoad exampleURL exampleBlocks),
   .deliver (.complete 0 (some .transfer) .healthy)]

/-- A request after a cancellation and one from inside the Fail callback are both swallowed. -/
theorem requests_swallowed :
    let start : Activity := ⟨launch emptyContainer, []⟩
    let afterCancel := (reentrantSystem exampleDigest).exec start cancelledEarly
    let insideFail := (reentrantSystem exampleDigest).exec start failAnnounced
    (reentrantSystem exampleDigest).Runs start cancelledEarly ∧
      (reentrantSystem exampleDigest).Runs start failAnnounced ∧
      insideFail.pending.map Pending.block = [some 1] ∧
      (insideFail.world.downLoaders 0).state = .fail ∧
      ¬Answered exampleDigest afterCancel exampleURL exampleBlocks ∧
      ¬Answered exampleDigest insideFail exampleURL exampleBlocks := by
  have unanswered : ∀ activity : Activity,
      activity.world.registered exampleDigest exampleURL = some 0 →
      ¬Answered exampleDigest activity exampleURL exampleBlocks := by
    rintro activity registered ⟨final, effect, returns, emitted, answers⟩
    rw [returns.unique (returns_call _)] at emitted
    exact not_answered_of_registered registered emitted answers
  refine ⟨⟨?_, ?_, trivial⟩, ⟨?_, ⟨rfl, ?_⟩, trivial⟩, rfl, rfl, unanswered _ (by decide),
    unanswered _ (by decide)⟩
  · exact nofun
  · exact nofun
  · exact nofun
  · exact ⟨.waiting, rfl, by decide⟩

end ZFBaseFramework
