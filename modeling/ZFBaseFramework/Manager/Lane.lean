import ZFBaseFramework.Manager.Provenance
import ZFBaseFramework.Manager.Registry

/-!
# One URL on its own

A `Lane` is what the app holds for a single URL: the tmp file, the cached file and the
transfer that is registered for it, without the numbers of downloaders, tasks, sessions
and nodes. `Lane.perform` says what a call or an event does to it and `Lane.said` what its
client hears of that. `World.lane` and `World.heard` show a world of many downloads as the
lane of one URL.
-/

namespace ZFBaseFramework

open ZFFileManagerTool World

/-- A registered download: the fields of its downloader and the bookkeeping of its task. -/
structure Transfer where
  blocks : ClientBlocks
  state : ZFDownLoaderState := .unknown
  progress : CGFloat := 0
  tmpSize : ℕ
  totalSize : ℤ := 0
  /-- The output stream writes to the tmp file. -/
  writes : Bool := false
  offset : ℕ
  phase : TaskPhase := .waiting
  suspended : Bool := false
  cancelled : Bool := false
  deriving DecidableEq

namespace Transfer

/-- A download that continues a tmp file of the given size. -/
def begun (blocks : ClientBlocks) (size : ℕ) : Transfer where
  blocks := blocks
  tmpSize := size
  offset := size

/-- `pause` and `resume` -/
def switch (transfer : Transfer) (source target : ZFDownLoaderState) (suspended : Bool) :
    Transfer :=
  if transfer.state = source then { transfer with state := target, suspended } else transfer

/-- The tmp file holds as many bytes as the response states. -/
def finished (transfer : Transfer) (totalSize : ℤ) : Transfer :=
  { transfer with totalSize, state := .success, phase := .refused }

/-- The response states more bytes than the tmp file holds. -/
def opened (transfer : Transfer) (totalSize : ℤ) (writes : Bool) : Transfer :=
  { transfer with totalSize, writes, state := .downing, phase := .allowed }

/-- A chunk is counted. -/
def counted (transfer : Transfer) (count : ℕ) : Transfer :=
  { transfer with
    tmpSize := transfer.tmpSize + count
    progress := .quotient (transfer.tmpSize + count) transfer.totalSize }

/-- The transfer that a downloader and its task carry. -/
def of (fields : ZFDownLoader) (record : DataTask) : Transfer where
  blocks :=
    { progress := fields.dloadInfo
      state := fields.dloadStateChange
      success := fields.dloadSuccess.bind CompletionBlock.client
      fail := fields.dlFail.bind CompletionBlock.client }
  state := fields.state
  progress := fields.progress
  tmpSize := fields.tmpSize
  totalSize := fields.totalSize
  writes := fields.streamNode.isSome
  offset := record.offset
  phase := record.phase
  suspended := record.suspended
  cancelled := record.cancelled

end Transfer

/-- What the app holds for one URL. -/
structure Lane where
  tmp : Option Item
  cache : Option Item
  transfer : Option Transfer

/-- The calls and events as a single URL sees them. -/
inductive LaneAction where
  | downLoad (blocks : ClientBlocks)
  | pause
  | resume
  | cancel
  | response (totalSize : ℤ) (io : LocalIO)
  | data (bytes : List UInt8) (io : LocalIO)
  | complete (error : Option NSError) (io : LocalIO)
  | kill
  deriving DecidableEq

namespace Lane

/-- The size of a file that may be missing. -/
def size (item : Option Item) : ℕ := (item.map Item.size).getD 0

/-- The tmp file can be moved to the cache path. -/
def Placeable (lane : Lane) (io : LocalIO) : Prop :=
  io.moves = true ∧ lane.tmp.isSome = true ∧ ¬lane.cache.isSome = true

instance (lane : Lane) (io : LocalIO) : Decidable (lane.Placeable io) :=
  inferInstanceAs (Decidable (_ ∧ _ ∧ _))

/-- The tmp file is moved to the cache path where that can be done. -/
def place (lane : Lane) (io : LocalIO) : Lane :=
  if lane.Placeable io then { lane with tmp := none, cache := lane.tmp } else lane

/-- The tmp file once a stream was opened on it. -/
def opened (lane : Lane) (io : LocalIO) : Option Item :=
  if io.opens then some (lane.tmp.getD (.file [])) else lane.tmp

/-- A stream on the tmp file takes bytes. -/
def takes (lane : Lane) (io : LocalIO) : Bool :=
  io.opens && match lane.tmp.getD (.file []) with
    | .file _ => true
    | .directory _ => false

/-- Change the transfer, if there is one. -/
def change (lane : Lane) (update : Transfer → Transfer) : Lane :=
  { lane with transfer := lane.transfer.map update }

/-- What a call or an event does to the lane. -/
def perform (lane : Lane) : LaneAction → Lane
  | .downLoad blocks =>
      match lane.transfer with
      | some transfer => { lane with transfer := some (transfer.switch .pause .downing false) }
      | none =>
          if lane.cache.isSome then lane
          else { lane with transfer := some (.begun blocks (size lane.tmp)) }
  | .pause => lane.change (·.switch .downing .pause true)
  | .resume => lane.change (·.switch .pause .downing false)
  | .cancel => lane.change fun transfer => { transfer with cancelled := true }
  | .response totalSize io =>
      match lane.transfer with
      | none => lane
      | some transfer =>
          if (transfer.tmpSize : ℤ) = totalSize then
            { lane.place io with transfer := some (transfer.finished totalSize) }
          else
            { lane with
              tmp := lane.opened io
              transfer := some (transfer.opened totalSize (lane.takes io)) }
  | .data bytes io =>
      match lane.transfer with
      | none => lane
      | some transfer =>
          { lane with
            tmp := if transfer.writes then lane.tmp.map (Item.extend (io.taken bytes)) else lane.tmp
            transfer := some (transfer.counted bytes.length) }
  | .complete none io => { lane.place io with transfer := none }
  | .complete (some _) _ => { lane with transfer := none }
  | .kill => { lane with transfer := none }

/-- What a session may deliver; a response is not shorter than the tmp file. -/
def Admits (lane : Lane) : LaneAction → Prop
  | .response totalSize _ => ∃ transfer, lane.transfer = some transfer ∧
      transfer.phase = .waiting ∧ (transfer.tmpSize : ℤ) ≤ totalSize
  | .data _ _ => ∃ transfer, lane.transfer = some transfer ∧ transfer.phase = .allowed
  | .complete error _ => ∃ transfer, lane.transfer = some transfer ∧
      (error = none → transfer.phase = .allowed)
  | _ => True

/-- The runs of one URL on its own. -/
def system : ActionSystem Lane LaneAction where
  Admits := Admits
  perform := perform

/-- The announcement of a move, where there is one. -/
def placement (lane : Lane) (url : NSURL) (io : LocalIO) : List Effect :=
  if lane.Placeable io then [.placed 0 (some url.cachePath)] else []

/-- The announcement of a switch. -/
def switchSaid (lane : Lane) (source target : ZFDownLoaderState) : List Effect :=
  match lane.transfer with
  | none => []
  | some transfer =>
      if transfer.state = source then [.state 0 transfer.blocks.state target] else []

/-- What the client of the URL hears of a call or an event, with all numbers set to zero. -/
def said (digest : MessageDigest) (url : NSURL) (lane : Lane) : LaneAction → List Effect
  | .downLoad blocks =>
      match lane.transfer with
      | some _ => lane.switchSaid .pause .downing
      | none =>
          if lane.cache.isSome then
            [.called 0 url, .info 0 blocks.progress (size lane.cache) 1,
              .state 0 blocks.state .success,
              .success 0 (blocks.wrap (url.key digest)).success (some url.cachePath)]
          else [.called 0 url, .requested 0 0 url (size lane.tmp)]
  | .pause => lane.switchSaid .downing .pause
  | .resume => lane.switchSaid .pause .downing
  | .cancel => []
  | .response totalSize io =>
      match lane.transfer with
      | none => []
      | some transfer =>
          if (transfer.tmpSize : ℤ) = totalSize then
            .info 0 transfer.blocks.progress totalSize 0 :: lane.placement url io ++
              [.state 0 transfer.blocks.state .success]
          else
            [.info 0 transfer.blocks.progress totalSize 0, .state 0 transfer.blocks.state .downing]
  | .data bytes io =>
      match lane.transfer with
      | none => []
      | some transfer =>
          .info 0 transfer.blocks.progress transfer.totalSize
              (.quotient (transfer.tmpSize + bytes.length) transfer.totalSize) ::
            if transfer.writes then [.appended 0 0 (io.taken bytes)] else []
  | .complete error io =>
      match lane.transfer, error with
      | none, _ => []
      | some transfer, none =>
          lane.placement url io ++ [.state 0 transfer.blocks.state .success,
            .success 0 (transfer.blocks.wrap (url.key digest)).success (some url.cachePath)]
      | some transfer, some _ =>
          [.state 0 transfer.blocks.state .fail,
            .fail 0 (transfer.blocks.wrap (url.key digest)).fail]
  | .kill => []

section Transfers

variable {lane : Lane} {transfer : Transfer} {digest : MessageDigest} {url : NSURL}
  {totalSize : ℤ} {io : LocalIO} (held : lane.transfer = some transfer)

include held

theorem perform_opened (short : (transfer.tmpSize : ℤ) < totalSize) :
    lane.perform (.response totalSize io) =
      { lane with
        tmp := lane.opened io
        transfer := some (transfer.opened totalSize (lane.takes io)) } := by
  simp [perform, held, short.ne]

theorem perform_finished (full : (transfer.tmpSize : ℤ) = totalSize) :
    lane.perform (.response totalSize io) =
      { lane.place io with transfer := some (transfer.finished totalSize) } := by
  simp [perform, held, full]

theorem perform_data (bytes : List UInt8) :
    lane.perform (.data bytes io) =
      { lane with
        tmp := if transfer.writes then lane.tmp.map (Item.extend (io.taken bytes)) else lane.tmp
        transfer := some (transfer.counted bytes.length) } := by
  simp [perform, held]

theorem said_opened (short : (transfer.tmpSize : ℤ) < totalSize) :
    lane.said digest url (.response totalSize io) =
      [.info 0 transfer.blocks.progress totalSize 0,
        .state 0 transfer.blocks.state .downing] := by
  simp [said, held, short.ne]

theorem said_finished (full : (transfer.tmpSize : ℤ) = totalSize) :
    lane.said digest url (.response totalSize io) =
      .info 0 transfer.blocks.progress totalSize 0 :: lane.placement url io ++
        [.state 0 transfer.blocks.state .success] := by
  simp [said, held, full]

theorem said_data (bytes : List UInt8) :
    lane.said digest url (.data bytes io) =
      .info 0 transfer.blocks.progress transfer.totalSize
          (.quotient (transfer.tmpSize + bytes.length) transfer.totalSize) ::
        if transfer.writes then [.appended 0 0 (io.taken bytes)] else [] := by
  simp [said, held]

theorem said_complete_finished :
    lane.said digest url (.complete none io) =
      lane.placement url io ++ [.state 0 transfer.blocks.state .success,
        .success 0 (transfer.blocks.wrap (url.key digest)).success (some url.cachePath)] := by
  simp [said, held]

theorem said_complete_failed (failure : NSError) :
    lane.said digest url (.complete (some failure) io) =
      [.state 0 transfer.blocks.state .fail,
        .fail 0 (transfer.blocks.wrap (url.key digest)).fail] := by
  simp [said, held]

end Transfers

end Lane

/-- The downloader an effect comes from. -/
def Effect.loader : Effect → DownLoaderId
  | .called loader _ | .requested loader _ _ _ | .info loader _ _ _ | .state loader _ _
  | .success loader _ _ | .fail loader _ | .appended loader _ _ | .placed loader _
  | .removed loader _ => loader

/-- An effect without the numbers of its downloader and its task. -/
def Effect.unnumbered : Effect → Effect
  | .called _ url => .called 0 url
  | .requested _ _ url offset => .requested 0 0 url offset
  | .info _ block fileSize progress => .info 0 block fileSize progress
  | .state _ block announced => .state 0 block announced
  | .success _ block path => .success 0 block path
  | .fail _ block => .fail 0 block
  | .appended _ _ bytes => .appended 0 0 bytes
  | .placed _ path => .placed 0 path
  | .removed _ path => .removed 0 path

/-- An event without the number of its task. -/
def DelegateEvent.unnumbered : DelegateEvent → LaneAction
  | .response _ reply io => .response reply.totalSize io
  | .data _ bytes io => .data bytes io
  | .complete _ error io => .complete error io

namespace World

variable (digest : MessageDigest) (url : NSURL)

/-- A world as the lane of one URL. -/
def lane (world : World) : Lane where
  tmp := world.files.lookup (url.tmpPath digest)
  cache := world.files.lookup url.cachePath
  transfer := (world.registered digest url).bind fun loader =>
    ((world.downLoaders loader).task.bind world.tasks).map (.of (world.downLoaders loader))

/-- What concerns the URL: the calls with its key, the calls to all downloads, the events of its
tasks, and the end of the app. -/
def concern (world : World) : ManagerAction → Option LaneAction
  | .call (.downLoad other blocks) =>
      if other.key digest = url.key digest then some (.downLoad blocks) else none
  | .call (.pause other) => if other.key digest = url.key digest then some .pause else none
  | .call (.resume other) => if other.key digest = url.key digest then some .resume else none
  | .call (.cancel other) => if other.key digest = url.key digest then some .cancel else none
  | .call .pauseAll => some .pause
  | .call .resumeAll => some .resume
  | .call .cancelAll => some .cancel
  | .deliver event =>
      if (world.tasks event.task).map DataTask.originalURL = some url then some event.unnumbered
      else none
  | .kill => some .kill

/-- The new effects of the downloaders on the URL's tmp path, the first one first. -/
def heard (before after : World) : List Effect :=
  ((freshEffects before after).reverse.filter fun effect =>
    (after.downLoaders effect.loader).downLoadTmpPath = some (url.tmpPath digest)).map
      Effect.unnumbered

/-- What the client of the URL hears of an action. -/
def hears (world : World) (action : ManagerAction) : List Effect :=
  heard digest url world ((managerSystem digest).perform world action)

end World

end ZFBaseFramework
