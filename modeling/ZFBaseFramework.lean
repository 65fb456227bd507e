import ZFBaseFramework.AudioPlayer.Starting
import ZFBaseFramework.Category.Drift
import ZFBaseFramework.Category.RedundantCalls
import ZFBaseFramework.DownLoader.Clearing
import ZFBaseFramework.DownLoader.Outcome
import ZFBaseFramework.DownLoader.Restart
import ZFBaseFramework.DownLoader.ResumeDecision
import ZFBaseFramework.Foundation.ConnectionBalance
import ZFBaseFramework.Foundation.DeviceNaming
import ZFBaseFramework.Foundation.OneDatabase
import ZFBaseFramework.Foundation.PartialRead
import ZFBaseFramework.Foundation.QueryResult
import ZFBaseFramework.Foundation.Serialisation
import ZFBaseFramework.Foundation.UidSeparation
import ZFBaseFramework.Manager.Broadcast
import ZFBaseFramework.Manager.Confinement
import ZFBaseFramework.Manager.Conversation
import ZFBaseFramework.Manager.ErrorReplies
import ZFBaseFramework.Manager.PauseHolds
import ZFBaseFramework.Manager.Progress
import ZFBaseFramework.Manager.Provenance
import ZFBaseFramework.Manager.Recovery
import ZFBaseFramework.Manager.StoredBytes
import ZFBaseFramework.SegmentBar.Refinement
import ZFBaseFramework.SegmentBar.Scrolling
import ZFBaseFramework.SegmentBar.SelectionChain
