import VerifiedStorage.Serialization
import VerifiedStorage.PmemSpec
import VerifiedStorage.WriteRestricted
import VerifiedStorage.Multilog.Metadata
import VerifiedStorage.Multilog.LogArea
import VerifiedStorage.Multilog.Recovery
import VerifiedStorage.Multilog.Frame
import VerifiedStorage.Multilog.Commit
import VerifiedStorage.Multilog.Layout
import VerifiedStorage.Multilog.Round
import VerifiedStorage.Log.Start
import VerifiedStorage.Kv.VolatileSpec
import VerifiedStorage.Pmem.WindowsPmemfile
import VerifiedStorage.PmemMock
