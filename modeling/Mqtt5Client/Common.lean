import Mathlib.Algebra.Ring.Int.Defs
import Mathlib.Algebra.Ring.Nat
import Mathlib.Data.List.Basic
import Mathlib.Order.Basic

/-!
# Mqtt5Client — the vocabulary of `common.h`

The enumerations of the public header, the byte and string types, and the build time
configuration (`Config.h` / `ExtConfig.h`). A limit of `0` stands for dynamic storage, as in
`ObjListType` and `ObjAllocator`: such a container is never full.
-/

namespace Mqtt5

/-- A NUL terminated string without its terminator; `nullptr` is a missing `Option`. -/
abbrev Str := List Char

/-- A data buffer. -/
abbrev Bytes := List UInt8

/-- The identity of an operation object (its address in the source). -/
abbrev OpId := Nat

inductive Qos where
  | atMostOnceDelivery
  | atLeastOnceDelivery
  | exactlyOnceDelivery
  deriving DecidableEq, Repr

def Qos.toNat : Qos → Nat
  | .atMostOnceDelivery => 0
  | .atLeastOnceDelivery => 1
  | .exactlyOnceDelivery => 2

def Qos.ofValue : Nat → Qos
  | 0 => .atMostOnceDelivery
  | 1 => .atLeastOnceDelivery
  | _ => .exactlyOnceDelivery

instance : LT Qos := ⟨fun a b => a.toNat < b.toNat⟩

instance : LE Qos := ⟨fun a b => a.toNat ≤ b.toNat⟩

instance (a b : Qos) : Decidable (a < b) := inferInstanceAs (Decidable (a.toNat < b.toNat))

instance (a b : Qos) : Decidable (a ≤ b) := inferInstanceAs (Decidable (a.toNat ≤ b.toNat))

inductive ErrorCode where
  | success
  | internalError
  | notIntitialized
  | busy
  | notConnected
  | alreadyConnected
  | badParam
  | insufficientConfig
  | outOfMemory
  | bufferOverflow
  | notSupported
  | retryLater
  | disconnecting
  | networkDisconnected
  | notAuthenticated
  | preparationLocked
  deriving DecidableEq, Repr

inductive AsyncOpStatus where
  | complete
  | internalError
  | timeout
  | protocolError
  | aborted
  | brokerDisconnected
  | outOfMemory
  | badParam
  deriving DecidableEq, Repr

/-- The reasons passed to the broker disconnect report callback; the `ValuesLimit` default
argument of `brokerDisconnected` (no report) is a missing `Option`. -/
inductive BrokerDisconnectReason where
  | disconnectMsg
  | internalError
  | noBrokerResponse
  | protocolError
  deriving DecidableEq, Repr

inductive TopicAliasPreference where
  | useAliasIfAvailable
  | forceAliasOnly
  | forceTopicOnly
  | forceTopicWithAlias
  deriving DecidableEq, Repr

inductive PublishOrdering where
  | sameQos
  | full
  deriving DecidableEq, Repr

inductive RetainHandling where
  | send
  | sendIfDoesNotExist
  | doNotSend
  deriving DecidableEq, Repr

/-- Reason codes are the wire values: the code compares them numerically. -/
abbrev ReasonCode := Nat

namespace ReasonCode

def success : ReasonCode := 0
def grantedQos0 : ReasonCode := 0
def grantedQos2 : ReasonCode := 2
def continueAuth : ReasonCode := 24
def reAuth : ReasonCode := 25
def unspecifiedError : ReasonCode := 128
def malformedPacket : ReasonCode := 129
def protocolError : ReasonCode := 130
def implSpecificError : ReasonCode := 131
def notAuthorized : ReasonCode := 135
def keepAliveTimeout : ReasonCode := 141
def packetIdInUse : ReasonCode := 145
def packetIdNotFound : ReasonCode := 146
def receiveMaxExceeded : ReasonCode := 147
def topicAliasInvalid : ReasonCode := 148
def packetTooLarge : ReasonCode := 149
def qosNotSupported : ReasonCode := 155

end ReasonCode

/-! ## Machine integers -/

/-- `std::numeric_limits<unsigned>::max()` of a 32 bit `unsigned`. -/
def maxU32 : Nat := 4294967295

/-- `--n` on an `unsigned`: decrementing `0` wraps around. -/
def decU32 (n : Nat) : Nat := if n = 0 then maxU32 else n - 1

/-- `a * b` on `unsigned` operands. -/
def mulU32 (a b : Nat) : Nat := a * b % 2 ^ 32

/-- `Op::maxStringLen()`. -/
def maxStringLen : Nat := 65535

/-- `CC_MQTT5_SESSION_NEVER_EXPIRES`. -/
def sessionNeverExpires : Nat := 0xffffffff

/-- `CC_MQTT5_MAX_TOPIC_ALIASES_LIMIT`. -/
def maxTopicAliasesLimit : Nat := 0xffff

/-! ## Build configuration -/

/-- `Config.h`. The model is the `CC_MQTT5_CLIENT_MAX_QOS == 2` build. -/
structure Config where
  hasDynMemAlloc : Bool := true
  maxOutputPacketSize : Nat := 0
  hasUserProps : Bool := true
  userPropsLimit : Nat := 0
  receiveMaxLimit : Nat := 0
  sendMaxLimit : Nat := 0
  hasTopicAliases : Bool := true
  topicAliasesLimit : Nat := 0
  hasSubIds : Bool := true
  subIdsLimit : Nat := 0
  subscribeOpsLimit : Nat := 0
  unsubscribeOpsLimit : Nat := 0
  hasTopicFormatVerification : Bool := true
  hasSubTopicVerification : Bool := true
  subFiltersLimit : Nat := 0
  /-- Capacity of the property lists of the outgoing messages (`ProtocolOptions.h`). -/
  propsLimit : Nat := 0
  /-- Capacity of the topic lists of SUBSCRIBE and UNSUBSCRIBE and of their responses. -/
  subTopicsLimit : Nat := 0
  unsubTopicsLimit : Nat := 0
  deriving Repr

/-- `size() >= max_size()` of a container with the given limit. -/
def isFull (limit size : Nat) : Bool := limit != 0 && limit ≤ size

namespace Config

variable (cfg : Config)

/-- The one-object pools of `ExtConfig` (connect, keep alive, disconnect, reauth). -/
def singleOpLimit : Nat := if cfg.hasDynMemAlloc then 0 else 1

def recvOpsLimit : Nat := if cfg.receiveMaxLimit = 0 then 0 else cfg.receiveMaxLimit + 1

def sendOpsLimit : Nat := if cfg.sendMaxLimit = 0 then 0 else cfg.sendMaxLimit + 1

def hasOpsLimit : Bool :=
  0 < cfg.singleOpLimit && 0 < cfg.subscribeOpsLimit && 0 < cfg.unsubscribeOpsLimit &&
    0 < cfg.recvOpsLimit && 0 < cfg.sendOpsLimit

def timersLimit : Nat :=
  if cfg.hasOpsLimit then
    cfg.singleOpLimit + cfg.singleOpLimit + cfg.singleOpLimit * 3 + cfg.subscribeOpsLimit
      + cfg.unsubscribeOpsLimit + cfg.recvOpsLimit + cfg.sendOpsLimit + cfg.singleOpLimit
  else 0

def opsLimit : Nat :=
  if cfg.hasOpsLimit then
    cfg.singleOpLimit * 4 + cfg.subscribeOpsLimit + cfg.unsubscribeOpsLimit
      + cfg.recvOpsLimit + cfg.sendOpsLimit
  else 0

def packetIdsLimit : Nat :=
  if cfg.hasDynMemAlloc then 0
  else cfg.subscribeOpsLimit + cfg.unsubscribeOpsLimit + cfg.sendOpsLimit

end Config

end Mqtt5
