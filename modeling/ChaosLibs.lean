import ChaosLibs.Common.SlotContinuity
import ChaosLibs.Common.FireCount
import ChaosLibs.Common.FireBudget
import ChaosLibs.Common.SlotSupply
import ChaosLibs.Io.SlotIdentity
import ChaosLibs.Io.RefreshRetry
import ChaosLibs.Io.RefreshOrder
import ChaosLibs.Io.RacyRefresh
import ChaosLibs.Io.MatchLoaded
import ChaosLibs.Io.FdCacheCoherence
import ChaosLibs.Io.FdCacheThreads
import ChaosLibs.Net.DupReplay
import ChaosLibs.Search.FirstBest
import ChaosLibs.Machine.ChunkedRead
import ChaosLibs.Net.ModesAgree
import ChaosLibs.Net.MatchConnected
import ChaosLibs.Io.ModesAgree
import ChaosLibs.Init.ModesInTime
import ChaosLibs.Init.ForkInheritance
import ChaosLibs.Init.InvocationIdentity
import ChaosLibs.Init.LoadNumbers
import ChaosLibs.Init.TraceeAccounts
import ChaosLibs.Process.FailAfterReload
import ChaosLibs.Init.SeccompFilter
import ChaosLibs.Dns.OwnedRegistry
import ChaosLibs.Time.RegressState
import ChaosLibs.Time.DeadlineCorrection
import ChaosLibs.Time.AddOffset
import ChaosLibs.Dns.Resolve
import ChaosLibs.Dns.OverrideAnswer
import ChaosLibs.Dns.SelectorLines
import ChaosLibs.Dns.SelectRule
import ChaosLibs.Io.DescriptorNames
import ChaosLibs.Io.UnreadableFile
import ChaosLibs.Io.LinkRecheck
import ChaosLibs.Common.PublishAtomic
import ChaosLibs.Common.HitsOwnership
import ChaosLibs.Common.HitsReported
import ChaosLibs.Net.Selectors
import ChaosLibs.Common.ExtractInPlace
import ChaosLibs.Common.ProbabilityText
import ChaosLibs.Common.CountTexts
import ChaosLibs.Io.QualifiedLines
import ChaosLibs.Io.SelectRule
import ChaosLibs.Io.NormalizeInPlace
import ChaosLibs.Net.ScatterLists
import ChaosLibs.Net.WaitTimeouts
import ChaosLibs.Init.ReadString
import ChaosLibs.Init.NetAddress
import ChaosLibs.Init.ProcessOf
import ChaosLibs.Net.FdinfoScan
import ChaosLibs.Net.RuleLines
import ChaosLibs.Dns.CallerLoop
import ChaosLibs.Init.NetDiag
import ChaosLibs.Init.Handover
import ChaosLibs.Init.MainLoop
import ChaosLibs.Common.RunOnce
import ChaosLibs.Common.VdsoClock
import ChaosLibs.Common.ValueLibraries
import ChaosLibs.Io.TransferLoops
import ChaosLibs.Time.SleepLoops
import ChaosLibs.Common.DrawGenerator
