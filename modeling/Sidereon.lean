import Sidereon.UnixCompress.Ending
import Sidereon.Ntrip.Stall
import Sidereon.Ntrip.Stale
import Sidereon.Ntrip.StallChecks
import Sidereon.Ntrip.Lifecycle
import Sidereon.Ntrip.Framing
import Sidereon.Ntrip.Consumers
import Sidereon.Cache.Atomicity
import Sidereon.Cache.Healing
import Sidereon.Distribution.Repair
import Sidereon.Distribution.Confinement
import Sidereon.Distribution.Persistence
import Sidereon.Distribution.Secrets
import Sidereon.UnixCompress.Truncation
import Sidereon.Ntrip.Ownership
import Sidereon.Cache.NoCoverage
import Sidereon.Ftp.Session
import Sidereon.Ftp.Transfer
import Sidereon.Data.Hosts
import Sidereon.Data.Directories
import Sidereon.MergeReport.EpochGrid
import Sidereon.Distribution.Ionex
import Sidereon.MergeReport.Timestamps
import Sidereon.MergeReport.Centers
import Sidereon.Distribution.Cookies
import Sidereon.Distribution.ByteLimits
import Sidereon.Rinex.Suffixes
import Sidereon.Distribution.Netrc
import Sidereon.Distribution.IonexCadence
import Sidereon.Ntrip.Backoff
import Sidereon.Distribution.Ingress
import Sidereon.Ftp.Framing
import Sidereon.Ftp.Passive
import Sidereon.MergePolicy.RoundTrip
import Sidereon.Foundation.Keyed
import Sidereon.MergeReport.Agreement
import Sidereon.MergeReport.SameSource
import Sidereon.MergeReport.Json
import Sidereon.MergeReport.Binding
import Sidereon.Cache.Prefetch
import Sidereon.Distribution.Identity
