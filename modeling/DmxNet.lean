import DmxNet.Console.Request
import DmxNet.Proofs.Console.Refinement
import DmxNet.Proofs.Console.Numbering
import DmxNet.Proofs.Packet.Canonical
import DmxNet.Proofs.Schema.Exactness
import DmxNet.Schema.Declare
import DmxNet.Schema.Text
import DmxNet.Workbench
import DmxNet.Proofs.Network.Usage
import DmxNet.Proofs.Network.Leaks
import DmxNet.Proofs.Console.Answers
import DmxNet.Proofs.Packet.Wire
import DmxNet.Proofs.Console.Coding
import DmxNet.Proofs.Network.Reception
import DmxNet.Proofs.Console.Receiving
import DmxNet.Proofs.Network.Refusal
import DmxNet.Proofs.Schema.Agreement
import DmxNet.Proofs.Console.Clock
import DmxNet.Proofs.Schema.Coercing
import DmxNet.Proofs.Schema.Sampling
import DmxNet.Proofs.Bytes.Consumption
