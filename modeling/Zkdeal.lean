import Zkdeal.ForcedRejection
import Zkdeal.RejectionMirror
import Zkdeal.Gadgets
import Zkdeal.FeeWithholding
import Zkdeal.Removals
import Zkdeal.ComposedRooms
import Zkdeal.WithdrawalCap
import Zkdeal.BlockHashHistory
import Zkdeal.BlobEvaluation
import Zkdeal.BlobPacking
import Zkdeal.CommitOrder
import Zkdeal.BatchCalldata
import Zkdeal.InboxConservation
import Zkdeal.SettlementArithmetic
import Zkdeal.NativeKeccak
import Zkdeal.FailureReason
import Zkdeal.StateDump
import Zkdeal.JournalJson
import Zkdeal.LivePrepare
import Zkdeal.JobAddress
import Zkdeal.HttpService
import Zkdeal.ParticipantTree
import Zkdeal.DurableBeats
import Zkdeal.JobProtocol
