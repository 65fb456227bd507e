import ZFBaseFramework.Manager.Independence

/-!
# Messages to all downloads

`pauseAll`, `resumeAll` and `cancelAll` send their message to the values of a
dictionary, which come in no order that one could rely on. None is needed: for each URL
the three do what `pauseWithURL:`, `resumeWithURL:` and `cancelWithURL:` do for it.
-/

namespace ZFBaseFramework

open ZFFileManagerTool World

variable {digest : MessageDigest} {used : Set NSURL} {url : NSURL}

/-- In whatever order the dictionary lists the downloaders, a message to all of them is for each
URL the message to its own: its files, its transfer and its client cannot tell the two apart. -/
theorem run_broadcast {files : FileSystem Path} {actions : List ManagerAction}
    (apart : Apart digest used) (urlUsed : url ∈ used)
    (runs : ((managerSystem digest).restrict fun world action =>
      Uses used action ∧ Restartless world action).Runs (launch files) actions)
    {method : World → DownLoaderId → World}
    (among : method = World.pause ∨ method = World.resume ∨ method = World.cancel)
    {order : List DownLoaderId}
    (perm : order.Perm (((managerSystem digest).exec (launch files)
      actions).downLoaderInfos.entries.map Sigma.snd)) :
    let world := (managerSystem digest).exec (launch files) actions
    (order.foldl method world).lane digest url = (world.send digest url method).lane digest url ∧
      heard digest url world (order.foldl method world) =
        heard digest url world (world.send digest url method) := by
  intro world
  have separate : Separate digest used world :=
    (separate_preserved apart).exec (separate_launch digest used files) runs
  have message : ∃ action, Message digest used method action := by
    rcases among with rfl | rfl | rfl
    · exact ⟨_, message_pause apart⟩
    · exact ⟨_, message_resume apart⟩
    · exact ⟨_, message_cancel apart⟩
  rcases message with ⟨action, message⟩
  have every := message.broadcast separate apart urlUsed perm
  have alone := message.send separate apart urlUsed url
  rw [if_pos rfl] at alone
  rw [every.1, every.2, alone.1, alone.2]
  exact ⟨rfl, rfl⟩

/-- Two downloads are under way. -/
def sideBySide : List ManagerAction :=
  begunExample ++ [.call (.downLoad playedURL exampleBlocks)]

theorem runs_sideBySide : ((managerSystem exampleDigests).restrict fun world action =>
    Uses {exampleURL, playedURL} action ∧ Restartless world action).Runs (launch emptyContainer)
      sideBySide :=
  ⟨⟨trivial, Or.inl rfl, trivial⟩, ⟨by decide +kernel, trivial, by decide +kernel⟩,
    ⟨by decide +kernel, trivial, trivial⟩, ⟨trivial, Or.inr rfl, trivial⟩, trivial⟩

theorem run_broadcast_sideBySide :
    let world := (managerSystem exampleDigests).exec (launch emptyContainer) sideBySide
    ([0, 1].foldl World.pause world).lane exampleDigests exampleURL =
        (world.send exampleDigests exampleURL World.pause).lane exampleDigests exampleURL ∧
      heard exampleDigests exampleURL world ([0, 1].foldl World.pause world) =
        heard exampleDigests exampleURL world
          (world.send exampleDigests exampleURL World.pause) := by
  refine run_broadcast apart_examples (Or.inl rfl) runs_sideBySide (Or.inl rfl) ?_
  decide +kernel

end ZFBaseFramework
