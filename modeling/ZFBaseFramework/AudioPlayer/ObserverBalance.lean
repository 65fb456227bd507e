import Mathlib.Tactic
import ZFBaseFramework.AudioPlayer.Player

/-!
# Observer balance

`playWithURL:` and `dealloc` take the observer off the current item before they let go
of it, and `stop` does not. So registrations and the current item agree all along a run
exactly if `stop` is never called with a player in place.
-/

namespace ZFBaseFramework

namespace AudioWorld

/-- The item of the current player. -/
def currentItem (world : AudioWorld) : Option ℕ :=
  world.player.map fun player => player.currentItem.identity

/-- The wrapper is registered once with its current item and with no other, and key-value
observing had nothing to object to. -/
structure Balanced (world : AudioWorld) : Prop where
  registered : ∀ item,
    world.registrations item = if world.currentItem = some item then 1 else 0
  faultless : world.faults = []

/-- Items are numbered as they are made. -/
def Numbered (world : AudioWorld) : Prop :=
  ∀ item, world.currentItem = some item → item < world.itemCount

/-- `stop` comes without a player. -/
def StopsIdle (world : AudioWorld) : AudioAction → Prop
  | .stop => world.player = none
  | _ => True

section Steps

variable {world after : AudioWorld}

/-- What neither the items nor the observers notice. -/
structure Unnoticed (world after : AudioWorld) : Prop where
  currentItem : after.currentItem = world.currentItem
  registrations : after.registrations = world.registrations
  faults : after.faults = world.faults
  itemCount : after.itemCount = world.itemCount

namespace Unnoticed

theorem balanced (unnoticed : Unnoticed world after) (balanced : world.Balanced) :
    after.Balanced := by
  refine ⟨?_, unnoticed.faults ▸ balanced.faultless⟩
  rw [unnoticed.currentItem, unnoticed.registrations]
  exact balanced.registered

theorem numbered (unnoticed : Unnoticed world after) (numbered : world.Numbered) :
    after.Numbered := by
  intro item current
  rw [unnoticed.currentItem] at current
  rw [unnoticed.itemCount]
  exact numbered item current

theorem trans {last : AudioWorld} (first : Unnoticed world after) (second : Unnoticed after last) :
    Unnoticed world last :=
  ⟨second.currentItem.trans first.currentItem, second.registrations.trans first.registrations,
    second.faults.trans first.faults, second.itemCount.trans first.itemCount⟩

theorem tellPlayer (world : AudioWorld) (change : AVPlayer → AVPlayer)
    (kept : ∀ player, (change player).currentItem = player.currentItem) :
    Unnoticed world (world.tellPlayer change) := by
  refine ⟨?_, rfl, rfl, rfl⟩
  simp only [AudioWorld.currentItem, player, AudioWorld.tellPlayer, Option.map_map]
  congr 1
  funext player
  simp [kept]

theorem pause (world : AudioWorld) : Unnoticed world world.pause :=
  tellPlayer world _ fun _ => rfl

theorem play (world : AudioWorld) : Unnoticed world world.play := tellPlayer world _ fun _ => rfl

theorem setMute (world : AudioWorld) (mute : Bool) : Unnoticed world (world.setMute mute) := by
  have stored : Unnoticed world { world with wrapper := { world.wrapper with mute } } :=
    ⟨rfl, rfl, rfl, rfl⟩
  exact stored.trans (tellPlayer _ _ fun _ => rfl)

theorem setRate (world : AudioWorld) (rate : ℚ) : Unnoticed world (world.setRate rate) := by
  have stored : Unnoticed world { world with wrapper := { world.wrapper with rate } } :=
    ⟨rfl, rfl, rfl, rfl⟩
  exact stored.trans (tellPlayer _ _ fun _ => rfl)

theorem setVolume (world : AudioWorld) (volume : ℚ) : Unnoticed world (world.setVolume volume) := by
  have loud : ∀ audible : AudioWorld, Unnoticed world audible →
      Unnoticed world ({ audible with wrapper := { audible.wrapper with volume } }.tellPlayer
        fun player => { player with volume }) := by
    intro audible unnoticed
    have stored : Unnoticed world { audible with wrapper := { audible.wrapper with volume } } :=
      unnoticed.trans ⟨rfl, rfl, rfl, rfl⟩
    exact stored.trans (tellPlayer _ _ fun _ => rfl)
  apply loud
  split
  · exact setMute world false
  · exact ⟨rfl, rfl, rfl, rfl⟩

theorem observeStatus (world : AudioWorld) (status : AVPlayerItemStatus) :
    Unnoticed world (world.observeStatus status) := by
  cases status with
  | unknown => exact ⟨rfl, rfl, rfl, rfl⟩
  | failed => exact ⟨rfl, rfl, rfl, rfl⟩
  | readyToPlay => exact play world

end Unnoticed

namespace Balanced

theorem registrations_idle (balanced : world.Balanced) (idle : world.player = none) :
    world.registrations = fun _ => 0 := by
  funext item
  rw [balanced.registered, currentItem, idle]
  rfl

/-- The observer is taken off the one item that has it. -/
theorem clearObserve (balanced : world.Balanced) :
    world.clearObserve = { world with registrations := fun _ => 0 } := by
  rw [AudioWorld.clearObserve]
  split
  · rename_i idle
    rw [← balanced.registrations_idle idle]
  · rename_i player present
    have current : world.currentItem = some player.currentItem.identity := by
      rw [currentItem, present]
      rfl
    have once := balanced.registered player.currentItem.identity
    rw [if_pos current] at once
    rw [removeObserver, once, if_neg one_ne_zero]
    congr 1
    funext item
    by_cases same : item = player.currentItem.identity
    · rw [same, Function.update_self]
    · rw [Function.update_of_ne same, balanced.registered, current, if_neg]
      intro equal
      exact same (Option.some.inj equal).symm

end Balanced

theorem setPlayer_unobserved (player : Option AVPlayer)
    (unobserved : ∀ item, world.currentItem = some item → world.registrations item = 0) :
    world.setPlayer player = { world with wrapper := { world.wrapper with player } } := by
  rw [setPlayer]
  split
  · rfl
  · rename_i old present
    have current : world.currentItem = some old.currentItem.identity := by
      rw [currentItem, present]
      rfl
    exact if_pos (unobserved _ current)

theorem playWithURL_eq (balanced : world.Balanced) (numbered : world.Numbered) (url : NSURL) :
    world.playWithURL url =
      { wrapper := { world.wrapper with
          player := some { currentItem := ⟨world.itemCount, url⟩ } }
        itemCount := world.itemCount + 1
        registrations := Function.update (fun _ => 0) world.itemCount 1
        faults := []
        deallocated := world.deallocated } := by
  have cleared : (if world.player.isSome then world.clearObserve else world) =
      { world with registrations := fun _ => 0 } := by
    split
    · exact balanced.clearObserve
    · rename_i idle
      rw [Option.not_isSome_iff_eq_none] at idle
      rw [← balanced.registrations_idle idle]
  rw [playWithURL, cleared, setPlayer_unobserved]
  · simp [addObserver, balanced.faultless]
  · intro item current
    exact Function.update_of_ne (numbered item current).ne _ _

theorem dealloc_eq (balanced : world.Balanced) :
    world.dealloc = { world with
      wrapper := { world.wrapper with player := none }
      registrations := fun _ => 0
      deallocated := true } := by
  rw [dealloc, balanced.clearObserve, setPlayer_unobserved]
  intro item _
  rfl

theorem balanced_playWithURL (balanced : world.Balanced) (numbered : world.Numbered)
    (url : NSURL) : (world.playWithURL url).Balanced := by
  rw [playWithURL_eq balanced numbered]
  refine ⟨?_, rfl⟩
  intro item
  by_cases fresh : item = world.itemCount
  · simp [fresh, currentItem, player]
  · have other : some world.itemCount ≠ some item := by
      intro current
      exact fresh (Option.some.inj current).symm
    simp [fresh, currentItem, player, other]

theorem balanced_dealloc (balanced : world.Balanced) : world.dealloc.Balanced := by
  rw [dealloc_eq balanced]
  refine ⟨?_, balanced.faultless⟩
  intro item
  rw [if_neg nofun]

/-- `stop` drops the current item while it is observed. -/
theorem balanced_stop_iff (balanced : world.Balanced) :
    world.stop.Balanced ↔ world.player = none := by
  constructor
  · intro stopped
    by_contra present
    rcases Option.ne_none_iff_exists'.mp present with ⟨old, present⟩
    have current : world.currentItem = some old.currentItem.identity := by
      rw [currentItem, present]
      rfl
    have once := balanced.registered old.currentItem.identity
    rw [if_pos current] at once
    have faults := stopped.faultless
    simp [stop, pause, tellPlayer, setPlayer, player, dropItem, once,
      show world.wrapper.player = some old from present] at faults
  · intro idle
    have same : world.stop = world := by
      rcases world with ⟨⟨player, mute, rate, volume⟩, itemCount, registrations, faults, gone⟩
      cases idle
      rfl
    rwa [same]

theorem numbered_stop (world : AudioWorld) : world.stop.Numbered := by
  have idle : world.stop.currentItem = none := by
    rw [stop, setPlayer]
    split
    · rfl
    · rw [dropItem]
      split <;> rfl
  intro item current
  rw [idle] at current
  cases current

theorem balanced_perform_iff (balanced : world.Balanced) (numbered : world.Numbered)
    (action : AudioAction) : (world.perform action).Balanced ↔ world.StopsIdle action := by
  cases action with
  | playWithURL url => exact iff_of_true (balanced_playWithURL balanced numbered url) trivial
  | status item status =>
      exact iff_of_true ((Unnoticed.observeStatus world status).balanced balanced) trivial
  | pause => exact iff_of_true ((Unnoticed.pause world).balanced balanced) trivial
  | resume => exact iff_of_true ((Unnoticed.play world).balanced balanced) trivial
  | stop => exact balanced_stop_iff balanced
  | seekWithTime time => exact iff_of_true balanced trivial
  | setProgress progress currentTime duration => exact iff_of_true balanced trivial
  | setMute mute => exact iff_of_true ((Unnoticed.setMute world mute).balanced balanced) trivial
  | setRate rate => exact iff_of_true ((Unnoticed.setRate world rate).balanced balanced) trivial
  | setVolume volume =>
      exact iff_of_true ((Unnoticed.setVolume world volume).balanced balanced) trivial
  | dealloc => exact iff_of_true (balanced_dealloc balanced) trivial

theorem numbered_perform (balanced : world.Balanced) (numbered : world.Numbered)
    (action : AudioAction) : (world.perform action).Numbered := by
  cases action with
  | playWithURL url =>
      rw [perform, playWithURL_eq balanced numbered]
      intro item current
      cases current
      exact Nat.lt_succ_self _
  | status item status => exact (Unnoticed.observeStatus world status).numbered numbered
  | pause => exact (Unnoticed.pause world).numbered numbered
  | resume => exact (Unnoticed.play world).numbered numbered
  | stop => exact numbered_stop world
  | seekWithTime time => exact numbered
  | setProgress progress currentTime duration => exact numbered
  | setMute mute => exact (Unnoticed.setMute world mute).numbered numbered
  | setRate rate => exact (Unnoticed.setRate world rate).numbered numbered
  | setVolume volume => exact (Unnoticed.setVolume world volume).numbered numbered
  | dealloc =>
      rw [perform, dealloc_eq balanced]
      exact nofun

end Steps

theorem numbered_create : create.Numbered := nofun

theorem balanced_create : create.Balanced := by
  refine ⟨?_, rfl⟩
  intro item
  rw [if_neg nofun]
  rfl

end AudioWorld

/-- The observer is balanced all along a run exactly if `stop` never meets a player. -/
theorem run_observerBalanced_iff {actions : List AudioAction}
    (runs : audioSystem.Runs .create actions) :
    audioSystem.Throughout AudioWorld.Balanced .create actions ↔
      audioSystem.Along AudioWorld.StopsIdle .create actions := by
  refine ActionSystem.throughout_iff_along ?_ ?_ AudioWorld.numbered_create
    AudioWorld.balanced_create runs
  · intro world action numbered balanced _
    exact AudioWorld.numbered_perform balanced numbered action
  · intro world action numbered balanced _
    exact AudioWorld.balanced_perform_iff balanced numbered action

/-- A second item is played, and the wrapper goes. -/
def playedTwice (first second : NSURL) : List AudioAction :=
  [.playWithURL first, .pause, .playWithURL second, .setVolume 1, .dealloc]

theorem run_observerBalanced_playedTwice :
    audioSystem.Throughout AudioWorld.Balanced .create
      (playedTwice ⟨"http://a/1", "1"⟩ ⟨"http://a/2", "2"⟩) := by
  have runs : audioSystem.Runs .create (playedTwice ⟨"http://a/1", "1"⟩ ⟨"http://a/2", "2"⟩) :=
    ⟨⟨rfl, nofun⟩, ⟨rfl, nofun⟩, ⟨rfl, nofun⟩, ⟨rfl, nofun⟩, ⟨rfl, nofun⟩, trivial⟩
  exact (run_observerBalanced_iff runs).mpr
    ⟨trivial, trivial, trivial, trivial, trivial, trivial⟩

/-- `stop` after `playWithURL:` drops the item while it is observed. -/
theorem stopped_not_observerBalanced :
    audioSystem.Runs .create [.playWithURL ⟨"http://a/1", "1"⟩, .stop] ∧
      ¬audioSystem.Throughout AudioWorld.Balanced .create
        [.playWithURL ⟨"http://a/1", "1"⟩, .stop] := by
  refine ⟨⟨⟨rfl, nofun⟩, ⟨rfl, nofun⟩, trivial⟩, ?_⟩
  rintro ⟨_, _, stopped⟩
  have faults := stopped.faultless
  revert faults
  decide

end ZFBaseFramework
