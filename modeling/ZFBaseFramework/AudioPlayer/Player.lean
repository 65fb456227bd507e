import Mathlib.Data.Rat.Defs
import ZFBaseFramework.Foundation.FileManagerTool
import ZFBaseFramework.Library.ActionSystem

/-!
# The audio player

`ZFAudioPlayer` with the `AVPlayer` it drives and the key-value observing of the
player's item. A player keeps its item until it is released, and the wrapper is the only
owner of its player, so that storing another player drops the item of the old one.
Seeking asks the player for another position and touches nothing that is kept here.
-/

namespace ZFBaseFramework

structure AVPlayerItem where
  identity : ℕ
  url : NSURL
  deriving DecidableEq, Repr

/-- `AVPlayer`; a new one is unmuted, has volume 1 and does not play. -/
structure AVPlayer where
  currentItem : AVPlayerItem
  muted : Bool := false
  volume : ℚ := 1
  rate : ℚ := 0
  deriving DecidableEq, Repr

/-- `AVPlayerItemStatus` -/
inductive AVPlayerItemStatus where
  | unknown
  | readyToPlay
  | failed
  deriving DecidableEq, Repr

/-- The instance variables of a `ZFAudioPlayer`. -/
structure ZFAudioPlayer where
  player : Option AVPlayer := none
  mute : Bool := false
  rate : ℚ := 0
  volume : ℚ := 0
  deriving DecidableEq, Repr

/-- What key-value observing raises an exception for. -/
inductive ObserverFault where
  /-- `removeObserver:` was sent to an item without such an observer. -/
  | removedUnregistered (item : ℕ)
  /-- An item was deallocated while it was observed. -/
  | droppedObserved (item : ℕ)
  deriving DecidableEq, Repr

/-- The wrapper, how often it is registered with each item, and the faults, newest first. -/
structure AudioWorld where
  wrapper : ZFAudioPlayer
  itemCount : ℕ
  registrations : ℕ → ℕ
  faults : List ObserverFault
  deallocated : Bool

namespace AudioWorld

/-- A wrapper that was just created. -/
def create : AudioWorld := ⟨{}, 0, fun _ => 0, [], false⟩

def player (world : AudioWorld) : Option AVPlayer := world.wrapper.player

/-- `addObserver:forKeyPath:` for the key path `status`. -/
def addObserver (world : AudioWorld) (item : ℕ) : AudioWorld :=
  { world with
    registrations := Function.update world.registrations item (world.registrations item + 1) }

/-- `removeObserver:forKeyPath:` -/
def removeObserver (world : AudioWorld) (item : ℕ) : AudioWorld :=
  if world.registrations item = 0 then
    { world with faults := .removedUnregistered item :: world.faults }
  else
    { world with
      registrations := Function.update world.registrations item (world.registrations item - 1) }

/-- The end of an item's life. -/
def dropItem (world : AudioWorld) (item : ℕ) : AudioWorld :=
  if world.registrations item = 0 then world
  else { world with faults := .droppedObserved item :: world.faults }

/-- `setPlayer:`, which releases the old player and with it the old item. -/
def setPlayer (world : AudioWorld) (player : Option AVPlayer) : AudioWorld :=
  let stored := { world with wrapper := { world.wrapper with player } }
  match world.player with
  | none => stored
  | some old => stored.dropItem old.currentItem.identity

/-- A message to the player, which goes nowhere when there is none. -/
def tellPlayer (world : AudioWorld) (change : AVPlayer → AVPlayer) : AudioWorld :=
  { world with wrapper := { world.wrapper with player := world.player.map change } }

/-- `[self.player play]` -/
def play (world : AudioWorld) : AudioWorld :=
  world.tellPlayer fun player => { player with rate := 1 }

/-- `clearObserve` -/
def clearObserve (world : AudioWorld) : AudioWorld :=
  match world.player with
  | none => world
  | some player => world.removeObserver player.currentItem.identity

/-- `playWithURL:` -/
def playWithURL (world : AudioWorld) (url : NSURL) : AudioWorld :=
  let item : AVPlayerItem := ⟨world.itemCount, url⟩
  let cleared := if world.player.isSome then world.clearObserve else world
  let observed := { cleared with itemCount := world.itemCount + 1 }.addObserver item.identity
  observed.setPlayer (some { currentItem := item })

/-- `observeValueForKeyPath:…` for the key path `status`. -/
def observeStatus (world : AudioWorld) : AVPlayerItemStatus → AudioWorld
  | .unknown => world
  | .failed => world
  | .readyToPlay => world.play

/-- `pause` -/
def pause (world : AudioWorld) : AudioWorld :=
  world.tellPlayer fun player => { player with rate := 0 }

/-- `resume` -/
def resume (world : AudioWorld) : AudioWorld := world.play

/-- `stop` -/
def stop (world : AudioWorld) : AudioWorld := world.pause.setPlayer none

/-- `setMute:` -/
def setMute (world : AudioWorld) (mute : Bool) : AudioWorld :=
  { world with wrapper := { world.wrapper with mute } }.tellPlayer fun player =>
    { player with muted := mute }

/-- `setRate:` -/
def setRate (world : AudioWorld) (rate : ℚ) : AudioWorld :=
  { world with wrapper := { world.wrapper with rate } }.tellPlayer fun player =>
    { player with rate }

/-- `setVolume:` -/
def setVolume (world : AudioWorld) (volume : ℚ) : AudioWorld :=
  let audible := if 0 < volume then world.setMute false else world
  { audible with wrapper := { audible.wrapper with volume } }.tellPlayer fun player =>
    { player with volume }

/-- `seekWithTime:` -/
def seekWithTime (world : AudioWorld) (_time : ℚ) : AudioWorld := world

/-- `setProgress:`, which seeks by the distance from the current time. -/
def setProgress (world : AudioWorld) (progress currentTime duration : ℚ) : AudioWorld :=
  world.seekWithTime (progress * duration - currentTime)

/-- `dealloc`, after which the instance variables are released. -/
def dealloc (world : AudioWorld) : AudioWorld :=
  { world.clearObserve.setPlayer none with deallocated := true }

end AudioWorld

/-- What happens to a `ZFAudioPlayer`. -/
inductive AudioAction where
  | playWithURL (url : NSURL)
  | status (item : ℕ) (status : AVPlayerItemStatus)
  | pause
  | resume
  | stop
  | seekWithTime (time : ℚ)
  | setProgress (progress currentTime duration : ℚ)
  | setMute (mute : Bool)
  | setRate (rate : ℚ)
  | setVolume (volume : ℚ)
  | dealloc
  deriving DecidableEq, Repr

namespace AudioWorld

/-- Observers are told about the items they are registered with. -/
def Admits (world : AudioWorld) (action : AudioAction) : Prop :=
  world.deallocated = false ∧
    ∀ item status, action = .status item status → world.registrations item ≠ 0

def perform (world : AudioWorld) : AudioAction → AudioWorld
  | .playWithURL url => world.playWithURL url
  | .status _ status => world.observeStatus status
  | .pause => world.pause
  | .resume => world.resume
  | .stop => world.stop
  | .seekWithTime time => world.seekWithTime time
  | .setProgress progress currentTime duration =>
      world.setProgress progress currentTime duration
  | .setMute mute => world.setMute mute
  | .setRate rate => world.setRate rate
  | .setVolume volume => world.setVolume volume
  | .dealloc => world.dealloc

end AudioWorld

/-- The life of a `ZFAudioPlayer`. -/
def audioSystem : ActionSystem AudioWorld AudioAction where
  Admits := AudioWorld.Admits
  perform := AudioWorld.perform

end ZFBaseFramework
