import Gumdrop.CHeap
import Gumdrop.Jni
import Gumdrop.HeapOwnership
import Gumdrop.HeaderCollector
import Gumdrop.HeaderCollectorInvariant
import Gumdrop.HeaderCollectorFailures
import Gumdrop.HeaderEncoder
import Gumdrop.EventSlot
import Gumdrop.H3Run
import Gumdrop.Alpn
import Gumdrop.AlpnRun
import Gumdrop.HeaderInfo
import Gumdrop.AddressCodec
import Gumdrop.StreamSend
import Gumdrop.Nameservers
import Gumdrop.StringCopies
import Gumdrop.Connection
import Gumdrop.ReadableStreams
