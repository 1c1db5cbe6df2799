import MacFuse.Session
import MacFuse.Binding
import MacFuse.Request
import MacFuse.Retain
import MacFuse.Disk
import MacFuse.Signals
import MacFuse.LoopDispatch
import MacFuse.Mount
import MacFuse.Lifecycle
import MacFuse.Process
import MacFuse.FuseOpt
import MacFuse.Cmdline
import MacFuse.Main
import MacFuse.Darwin
import MacFuse.OtherBuild
