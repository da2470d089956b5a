import LogTail.Main
import LogTail.Poll.Schedule
import LogTail.Source.Directory
import LogTail.Proofs.Session.Interleaving
import LogTail.Proofs.Log.Snapshot
import LogTail.Proofs.Log.Reread
import LogTail.Proofs.Session.Switch
import LogTail.Proofs.Search.MatchIndex
import LogTail.Proofs.Search.Scan
import LogTail.Proofs.Session.Moves
import LogTail.Proofs.Log.Buffer
import LogTail.Proofs.Search.Incremental
import LogTail.Proofs.Search.Retained
import LogTail.Proofs.Session.Epochs
import LogTail.Proofs.Session.Retained
import LogTail.Proofs.Session.Growth
import LogTail.Proofs.Session.Tail
import LogTail.Proofs.Log.Appending
import LogTail.Proofs.Search.Greedy
import LogTail.Proofs.Search.Highlights
import LogTail.Proofs.Search.Results
import LogTail.Proofs.Search.Cards
import LogTail.Proofs.Viewport.Screen
import LogTail.Proofs.Viewport.Page
import LogTail.Proofs.Session.Reader
import LogTail.Proofs.App.Calls
import LogTail.Proofs.App.Mirror
import LogTail.Proofs.Session.Isolation
import LogTail.Proofs.Query.Debounce
import LogTail.Proofs.Query.Editor
import LogTail.Proofs.Search.Cursor
import LogTail.Proofs.Search.Active
import LogTail.Proofs.Session.Query
import LogTail.Proofs.Session.Active
import LogTail.Proofs.Viewport.Bottom
import LogTail.Proofs.Viewport.Selecting
import LogTail.Proofs.Session.Selecting
import LogTail.Proofs.App.Acts
import LogTail.Proofs.App.Query
import LogTail.Proofs.App.Selection
import LogTail.Proofs.Session.Viewport
import LogTail.Proofs.Session.Bottom
import LogTail.Proofs.Session.Away
import LogTail.Proofs.Session.Jump
import LogTail.Proofs.Session.Cards
import LogTail.Proofs.Log.Generations
import LogTail.Proofs.Query.LastEdit
import LogTail.Proofs.Viewport.Target
import LogTail.Proofs.App.Steps
import LogTail.Proofs.App.Opening
import LogTail.Proofs.Search.Partition
import LogTail.Proofs.Search.Memo
import LogTail.Proofs.App.Stance
import LogTail.Proofs.App.FreeEnd
import LogTail.Proofs.App.Store
import LogTail.Proofs.Source.Args
import LogTail.Proofs.Text.Escape
import LogTail.Proofs.Text.Utf8
import LogTail.Proofs.Source.Container
import LogTail.Proofs.Poll.Schedule
import LogTail.Proofs.Words.Run
import LogTail.Proofs.Search.Changes
