import Mathlib.Tactic
import ZFBaseFramework.AudioPlayer.Player

/-!
# The wrapper's settings and the player's

`setMute:`, `setRate:` and `setVolume:` write a setting to the wrapper and to its player.
`playWithURL:` brings in a player with the default settings, and `play` starts at rate 1
whatever rate was set; both agree with the wrapper exactly where its settings are the
defaults anyway. A `Listening` keeps beside the wrapper whether a volume and a rate
were ever set.
-/

namespace ZFBaseFramework

structure Listening where
  audio : AudioWorld
  volumeSet : Bool
  rateSet : Bool

namespace Listening

def create : Listening := ⟨.create, false, false⟩

def perform (listening : Listening) (action : AudioAction) : Listening where
  audio := listening.audio.perform action
  volumeSet := match action with
    | .setVolume _ => true
    | _ => listening.volumeSet
  rateSet := match action with
    | .setRate _ => true
    | _ => listening.rateSet

/-- The player, if there is one, has the settings of the wrapper. -/
def Honoured (listening : Listening) : Prop :=
  ∀ player, listening.audio.player = some player →
    player.muted = listening.audio.wrapper.mute ∧
      (listening.volumeSet = true → player.volume = listening.audio.wrapper.volume) ∧
      (listening.rateSet = true → player.rate ≠ 0 → player.rate = listening.audio.wrapper.rate)

/-- Starting to play finds no player, or no rate but 1 that was set. -/
def PlaysPlainly (listening : Listening) : Prop :=
  listening.audio.player = none ∨
    (listening.rateSet = true → listening.audio.wrapper.rate = 1)

/-- A new item comes while the wrapper is unmuted and has no volume but 1 that was set. -/
def StartsPlainly (listening : Listening) : Prop :=
  listening.audio.wrapper.mute = false ∧
    (listening.volumeSet = true → listening.audio.wrapper.volume = 1)

/-- The step needs no setting that a new player or `play` does not have anyway. -/
def Plain (listening : Listening) : AudioAction → Prop
  | .playWithURL _ => listening.StartsPlainly
  | .status _ .readyToPlay => listening.PlaysPlainly
  | .resume => listening.PlaysPlainly
  | _ => True

end Listening

namespace AudioWorld

@[simp]
theorem player_tellPlayer (world : AudioWorld) (change : AVPlayer → AVPlayer) :
    (world.tellPlayer change).player = world.player.map change := rfl

theorem wrapper_clearObserve (world : AudioWorld) : world.clearObserve.wrapper = world.wrapper := by
  rw [clearObserve]
  split
  · rfl
  · rw [removeObserver]
    split <;> rfl

theorem wrapper_setPlayer (world : AudioWorld) (player : Option AVPlayer) :
    (world.setPlayer player).wrapper = { world.wrapper with player } := by
  rw [setPlayer]
  split
  · rfl
  · rw [dropItem]
    split <;> rfl

theorem wrapper_playWithURL (world : AudioWorld) (url : NSURL) :
    (world.playWithURL url).wrapper = { world.wrapper with
      player := some { currentItem := ⟨world.itemCount, url⟩ } } := by
  have cleared : (if world.player.isSome then world.clearObserve else world).wrapper =
      world.wrapper := by
    split
    · exact wrapper_clearObserve world
    · rfl
  rw [playWithURL, wrapper_setPlayer]
  simp only [addObserver, cleared]

theorem wrapper_stop (world : AudioWorld) :
    world.stop.wrapper = { world.wrapper with player := none } := by
  rw [stop, wrapper_setPlayer]
  rfl

theorem wrapper_dealloc (world : AudioWorld) :
    world.dealloc.wrapper = { world.wrapper with player := none } := by
  rw [dealloc, wrapper_setPlayer, wrapper_clearObserve]

end AudioWorld

namespace Listening

variable {listening : Listening}

theorem honoured_playWithURL_iff (url : NSURL) :
    (listening.perform (.playWithURL url)).Honoured ↔ listening.StartsPlainly := by
  have wrapper : (listening.perform (.playWithURL url)).audio.wrapper = _ :=
    AudioWorld.wrapper_playWithURL listening.audio url
  constructor
  · intro honoured
    have settings := honoured { currentItem := ⟨listening.audio.itemCount, url⟩ } (by
      rw [AudioWorld.player, wrapper])
    rw [wrapper] at settings
    exact ⟨settings.1.symm, fun set => (settings.2.1 set).symm⟩
  · rintro ⟨unmuted, full⟩ player present
    rw [AudioWorld.player, wrapper, Option.some.injEq] at present
    subst present
    rw [wrapper]
    exact ⟨unmuted.symm, fun set => (full set).symm, fun _ playing => absurd rfl playing⟩

/-- What holds of a step that makes the player play. -/
theorem honoured_play_iff {action : AudioAction} (honoured : listening.Honoured)
    (plays : listening.perform action =
      ⟨listening.audio.play, listening.volumeSet, listening.rateSet⟩) :
    (listening.perform action).Honoured ↔ listening.PlaysPlainly := by
  rw [plays]
  constructor
  · intro later
    cases present : listening.audio.player with
    | none => exact Or.inl present
    | some player =>
        right
        intro set
        have settings := later { player with rate := 1 } (by
          rw [AudioWorld.play, AudioWorld.player_tellPlayer, present]
          rfl)
        exact (settings.2.2 set one_ne_zero).symm
  · intro plainly player present
    rw [AudioWorld.play, AudioWorld.player_tellPlayer, Option.map_eq_some_iff] at present
    rcases present with ⟨before, present, rfl⟩
    rcases honoured before present with ⟨muted, volume, _⟩
    refine ⟨muted, volume, ?_⟩
    rcases plainly with idle | plain
    · rw [idle] at present
      cases present
    · intro set _
      exact (plain set).symm

theorem honoured_idle (idle : listening.audio.player = none) : listening.Honoured := by
  intro player present
  rw [idle] at present
  cases present

theorem honoured_pause (honoured : listening.Honoured) :
    (listening.perform .pause).Honoured := by
  intro player present
  simp only [perform, AudioWorld.perform, AudioWorld.pause, AudioWorld.player_tellPlayer,
    Option.map_eq_some_iff] at present
  rcases present with ⟨before, present, rfl⟩
  rcases honoured before present with ⟨muted, volume, _⟩
  exact ⟨muted, volume, fun _ playing => absurd rfl playing⟩

theorem honoured_setMute (honoured : listening.Honoured) (mute : Bool) :
    (listening.perform (.setMute mute)).Honoured := by
  intro player present
  simp only [perform, AudioWorld.perform, AudioWorld.setMute, AudioWorld.player_tellPlayer,
    Option.map_eq_some_iff] at present
  rcases present with ⟨before, present, rfl⟩
  rcases honoured before present with ⟨_, volume, rate⟩
  exact ⟨rfl, volume, rate⟩

theorem honoured_setRate (honoured : listening.Honoured) (rate : ℚ) :
    (listening.perform (.setRate rate)).Honoured := by
  intro player present
  simp only [perform, AudioWorld.perform, AudioWorld.setRate, AudioWorld.player_tellPlayer,
    Option.map_eq_some_iff] at present
  rcases present with ⟨before, present, rfl⟩
  rcases honoured before present with ⟨muted, volume, _⟩
  exact ⟨muted, volume, fun _ _ => rfl⟩

theorem honoured_setVolume (honoured : listening.Honoured) (volume : ℚ) :
    (listening.perform (.setVolume volume)).Honoured := by
  have audible : ({ listening with
      audio := if 0 < volume then listening.audio.setMute false else listening.audio } :
        Listening).Honoured := by
    split
    · exact honoured_setMute honoured false
    · exact honoured
  intro player present
  simp only [perform, AudioWorld.perform, AudioWorld.setVolume, AudioWorld.player_tellPlayer,
    Option.map_eq_some_iff] at present
  rcases present with ⟨before, present, rfl⟩
  rcases audible before present with ⟨muted, _, rate⟩
  exact ⟨muted, fun _ => rfl, rate⟩

theorem honoured_perform_iff (honoured : listening.Honoured) (action : AudioAction) :
    (listening.perform action).Honoured ↔ listening.Plain action := by
  cases action with
  | playWithURL url => exact honoured_playWithURL_iff url
  | status item status =>
      cases status with
      | unknown => exact iff_of_true honoured trivial
      | failed => exact iff_of_true honoured trivial
      | readyToPlay => exact honoured_play_iff honoured rfl
  | pause => exact iff_of_true (honoured_pause honoured) trivial
  | resume => exact honoured_play_iff honoured rfl
  | stop =>
      have idle : (listening.perform .stop).audio.player = none := by
        rw [AudioWorld.player]
        exact congrArg ZFAudioPlayer.player (AudioWorld.wrapper_stop listening.audio)
      exact iff_of_true (honoured_idle idle) trivial
  | seekWithTime time => exact iff_of_true honoured trivial
  | setProgress progress currentTime duration => exact iff_of_true honoured trivial
  | setMute mute => exact iff_of_true (honoured_setMute honoured mute) trivial
  | setRate rate => exact iff_of_true (honoured_setRate honoured rate) trivial
  | setVolume volume => exact iff_of_true (honoured_setVolume honoured volume) trivial
  | dealloc =>
      have idle : (listening.perform .dealloc).audio.player = none := by
        rw [AudioWorld.player]
        exact congrArg ZFAudioPlayer.player (AudioWorld.wrapper_dealloc listening.audio)
      exact iff_of_true (honoured_idle idle) trivial

end Listening

/-- The life of a wrapper, with what was set. -/
def listeningSystem : ActionSystem Listening AudioAction where
  Admits listening action := listening.audio.Admits action
  perform := Listening.perform

/-- The player has the wrapper's settings all along a run exactly if no step needs a setting that
a new player or `play` does not have anyway. -/
theorem run_settingsHonoured_iff {actions : List AudioAction}
    (runs : listeningSystem.Runs .create actions) :
    listeningSystem.Throughout Listening.Honoured .create actions ↔
      listeningSystem.Along Listening.Plain .create actions := by
  have create : Listening.create.Honoured := nofun
  rw [ActionSystem.throughout_iff, and_iff_right create]
  refine ActionSystem.along_iff_along ?_ ?_ create runs
  · intro listening action honoured _ plain
    exact (Listening.honoured_perform_iff honoured action).mpr plain
  · intro listening action honoured _
    exact Listening.honoured_perform_iff honoured action

/-- Settings are made, and the item plays at the rate that was set. -/
def adjusted : List AudioAction :=
  [.playWithURL ⟨"http://a/1", "1"⟩, .status 0 .readyToPlay, .setRate 2, .setMute true,
    .setVolume (1 / 2)]

theorem run_settingsHonoured_adjusted :
    listeningSystem.Throughout Listening.Honoured .create adjusted := by
  have told : ∀ item status, AudioAction.status 0 .readyToPlay = .status item status →
      (AudioWorld.create.playWithURL ⟨"http://a/1", "1"⟩).registrations item ≠ 0 := by
    rintro item status ⟨⟩
    decide
  have runs : listeningSystem.Runs .create adjusted :=
    ⟨⟨rfl, nofun⟩, ⟨rfl, told⟩, ⟨rfl, nofun⟩, ⟨rfl, nofun⟩, ⟨rfl, nofun⟩, trivial⟩
  exact (run_settingsHonoured_iff runs).mpr
    ⟨⟨rfl, nofun⟩, Or.inr nofun, trivial, trivial, trivial, trivial⟩

/-- The rate that was set is lost when playback is paused and resumed. -/
def resumedAtOne : List AudioAction :=
  [.playWithURL ⟨"http://a/1", "1"⟩, .setRate 2, .pause, .resume]

theorem resumedAtOne_not_settingsHonoured :
    listeningSystem.Runs .create resumedAtOne ∧
      ¬listeningSystem.Throughout Listening.Honoured .create resumedAtOne := by
  refine ⟨⟨⟨rfl, nofun⟩, ⟨rfl, nofun⟩, ⟨rfl, nofun⟩, ⟨rfl, nofun⟩, trivial⟩, ?_⟩
  rintro ⟨_, _, _, _, resumed⟩
  have settings := resumed ⟨⟨0, ⟨"http://a/1", "1"⟩⟩, false, 1, 1⟩ rfl
  have rates : (1 : ℚ) = 2 := settings.2.2 rfl one_ne_zero
  norm_num at rates

end ZFBaseFramework
