import ZFBaseFramework.AudioPlayer.ObserverBalance
import ZFBaseFramework.AudioPlayer.Settings

/-!
# Why a player plays

`observeValueForKeyPath:` starts the player without asking which item became ready. As
long as `stop` finds no player the wrapper observes the current item only, so that the
item which became ready is the one that is started. So a player that plays has the last
URL asked for, and it was started because its item was ready or because the client said
so since then.
-/

namespace ZFBaseFramework

/-- What can start a player with this item: the item is ready, or the client wants it. -/
def AudioAction.Starts (item : ℕ) (action : AudioAction) : Prop :=
  action = .status item .readyToPlay ∨ action = .resume ∨
    ∃ rate, rate ≠ 0 ∧ action = .setRate rate

namespace AudioWorld

/-- The player has the last URL asked for, and it plays only if it was started since then. -/
def Accounted (past : List AudioAction) (world : AudioWorld) : Prop :=
  ∀ player, world.player = some player → ∃ before url later,
    past = before ++ .playWithURL url :: later ∧ player.currentItem.url = url ∧
      (∀ other, .playWithURL other ∉ later) ∧
      (player.rate ≠ 0 → ∃ action ∈ later, action.Starts player.currentItem.identity)

section Steps

variable {world : AudioWorld} {player : AVPlayer} {action : AudioAction} {past : List AudioAction}

theorem player_playWithURL (world : AudioWorld) (url : NSURL) :
    (world.playWithURL url).player = some { currentItem := ⟨world.itemCount, url⟩ } := by
  rw [AudioWorld.player, wrapper_playWithURL]

theorem player_stop (world : AudioWorld) : world.stop.player = none := by
  rw [AudioWorld.player, wrapper_stop]

theorem player_dealloc (world : AudioWorld) : world.dealloc.player = none := by
  rw [AudioWorld.player, wrapper_dealloc]

/-- The observed item is that of the player. -/
theorem Balanced.item_eq (balanced : world.Balanced) {item : ℕ} (found : world.player = some player)
    (observed : world.registrations item ≠ 0) : player.currentItem.identity = item := by
  rw [balanced.registered] at observed
  by_contra different
  rw [currentItem, found, Option.map_some, if_neg] at observed
  · exact observed rfl
  · exact fun same => different (Option.some.inj same)

/-- Any other action leaves the item of the player, and starts the player only if it may. -/
theorem exists_player_of_perform (balanced : world.Balanced) (admitted : world.Admits action)
    (found : (world.perform action).player = some player)
    (kept : ∀ url, action ≠ .playWithURL url) :
    ∃ before, world.player = some before ∧ before.currentItem = player.currentItem ∧
      (player.rate ≠ 0 → before.rate ≠ 0 ∨ action.Starts player.currentItem.identity) := by
  have told : ∀ {change : AVPlayer → AVPlayer} {player}, world.player.map change = some player →
      ∃ before, world.player = some before ∧ change before = player := by
    intro change player changed
    exact Option.map_eq_some_iff.mp changed
  cases action with
  | playWithURL url => exact absurd rfl (kept url)
  | status item status =>
      cases status with
      | unknown | failed => exact ⟨player, found, rfl, Or.inl⟩
      | readyToPlay =>
          rcases told found with ⟨before, present, rfl⟩
          refine ⟨before, present, rfl, fun _ => Or.inr (Or.inl ?_)⟩
          rw [balanced.item_eq present (admitted.2 item _ rfl)]
  | pause =>
      rcases told found with ⟨before, present, rfl⟩
      exact ⟨before, present, rfl, fun playing => absurd rfl playing⟩
  | resume =>
      rcases told found with ⟨before, present, rfl⟩
      exact ⟨before, present, rfl, fun _ => Or.inr (Or.inr (Or.inl rfl))⟩
  | stop =>
      rw [perform, player_stop] at found
      cases found
  | seekWithTime | setProgress => exact ⟨player, found, rfl, Or.inl⟩
  | setMute mute =>
      rcases told found with ⟨before, present, rfl⟩
      exact ⟨before, present, rfl, Or.inl⟩
  | setRate rate =>
      rcases told found with ⟨before, present, rfl⟩
      exact ⟨before, present, rfl, fun playing => Or.inr (Or.inr (Or.inr ⟨rate, playing, rfl⟩))⟩
  | setVolume volume =>
      simp only [perform, setVolume] at found
      split at found
      · rcases Option.map_eq_some_iff.mp found with ⟨audible, unmuted, rfl⟩
        have unmuted : (world.setMute false).player = some audible := unmuted
        rcases told unmuted with ⟨before, present, rfl⟩
        exact ⟨before, present, rfl, Or.inl⟩
      · rcases told found with ⟨before, present, rfl⟩
        exact ⟨before, present, rfl, Or.inl⟩
  | dealloc =>
      rw [perform, player_dealloc] at found
      cases found

theorem Accounted.perform (accounted : world.Accounted past) (balanced : world.Balanced)
    (admitted : world.Admits action) : (world.perform action).Accounted (past ++ [action]) := by
  intro player found
  by_cases asked : ∃ url, action = .playWithURL url
  · rcases asked with ⟨url, rfl⟩
    rw [AudioWorld.perform, player_playWithURL, Option.some.injEq] at found
    subst found
    refine ⟨past, url, [], rfl, rfl, ?_, fun playing => absurd rfl playing⟩
    rintro other ⟨⟩
  · have kept : ∀ url, action ≠ .playWithURL url := fun url same => asked ⟨url, same⟩
    rcases exists_player_of_perform balanced admitted found kept with
      ⟨earlier, present, item, started⟩
    rcases accounted earlier present with ⟨before, url, later, rfl, same, last, why⟩
    rw [item] at same why
    refine ⟨before, url, later ++ [action], by simp, same, ?_, ?_⟩
    · intro other listed
      rcases List.mem_append.mp listed with listed | listed
      · exact last other listed
      · exact kept other (List.mem_singleton.mp listed).symm
    · intro playing
      rcases started playing with playing | starts
      · rcases why playing with ⟨reason, listed, starts⟩
        exact ⟨reason, List.mem_append_left _ listed, starts⟩
      · exact ⟨action, List.mem_append_right _ List.mem_cons_self, starts⟩

end Steps

end AudioWorld

/-- If `stop` never meets a player, the player has the last URL asked for, and it plays only if
since then its own item became ready or the client resumed it or set a rate. -/
theorem run_accounted {actions : List AudioAction}
    (runs : (audioSystem.restrict AudioWorld.StopsIdle).Runs .create actions) :
    (audioSystem.exec .create actions).Accounted actions := by
  have history := @ActionSystem.Runs.history _ _ (audioSystem.restrict AudioWorld.StopsIdle)
    (fun past world => (world.Numbered ∧ world.Balanced) ∧ world.Accounted past) ?_ [] actions
    .create ⟨⟨AudioWorld.numbered_create, AudioWorld.balanced_create⟩, ?_⟩ runs
  · exact history.2
  · rintro past world action ⟨⟨numbered, balanced⟩, accounted⟩ ⟨admitted, idle⟩
    exact ⟨⟨AudioWorld.numbered_perform balanced numbered action,
      (AudioWorld.balanced_perform_iff balanced numbered action).mpr idle⟩,
      accounted.perform balanced admitted⟩
  · rintro player ⟨⟩

/-- A second item becomes ready and is paused before the client resumes it. -/
def startedTwice (first second : NSURL) : List AudioAction :=
  [.playWithURL first, .status 0 .readyToPlay, .playWithURL second, .status 1 .readyToPlay, .pause,
    .resume]

theorem run_accounted_startedTwice :
    let actions := startedTwice ⟨"http://a/1", "1"⟩ ⟨"http://a/2", "2"⟩
    (audioSystem.exec .create actions).Accounted actions := by
  apply run_accounted
  refine ⟨⟨⟨rfl, ?_⟩, trivial⟩, ⟨⟨rfl, ?_⟩, trivial⟩, ⟨⟨rfl, ?_⟩, trivial⟩, ⟨⟨rfl, ?_⟩, trivial⟩,
    ⟨⟨rfl, ?_⟩, trivial⟩, ⟨⟨rfl, ?_⟩, trivial⟩, trivial⟩
  · rintro item status ⟨⟩
  · rintro item status ⟨⟩
    decide
  · rintro item status ⟨⟩
  · rintro item status ⟨⟩
    decide
  · rintro item status ⟨⟩
  · rintro item status ⟨⟩

end ZFBaseFramework
