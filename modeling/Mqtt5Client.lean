import Mqtt5Client.Lib.ModifyFirst
import Mqtt5Client.Lib.Keyed
import Mqtt5Client.Messages
import Mqtt5Client.TimerMgr
import Mqtt5Client.State
import Mqtt5Client.Base
import Mqtt5Client.Session
import Mqtt5Client.PublishAck
import Mqtt5Client.RecvOp
import Mqtt5Client.ConnectOp
import Mqtt5Client.SubscribeOp
import Mqtt5Client.KeepAliveOp
import Mqtt5Client.ClientImpl
import Mqtt5Client.Lib.Machine
import Mqtt5Client.Run
import Mqtt5Client.Acts
import Mqtt5Client.Pending
import Mqtt5Client.Completion
import Mqtt5Client.Frame
import Mqtt5Client.FrameOps
import Mqtt5Client.Micro
import Mqtt5Client.Registry
import Mqtt5Client.Effects
import Mqtt5Client.Resume
import Mqtt5Client.Macro
import Mqtt5Client.PublishSteps
import Mqtt5Client.AckSteps
import Mqtt5Client.ConfigSteps
import Mqtt5Client.PublishCalls
import Mqtt5Client.HandlerSteps
import Mqtt5Client.Strays
import Mqtt5Client.CallSteps
import Mqtt5Client.Steps
import Mqtt5Client.Lock
import Mqtt5Client.LockSteps
import Mqtt5Client.Connack
import Mqtt5Client.Invariants
import Mqtt5Client.Updates
import Mqtt5Client.Capacity
import Mqtt5Client.Connectivity
import Mqtt5Client.PacketIds
import Mqtt5Client.StoredSession
import Mqtt5Client.Registered
import Mqtt5Client.Disconnection
import Mqtt5Client.Sessions
import Mqtt5Client.Lib.Monitor
import Mqtt5Client.Traffic
import Mqtt5Client.Receptions
import Mqtt5Client.ExactlyOnce
import Mqtt5Client.Lib.Sorted
import Mqtt5Client.Allocation
import Mqtt5Client.TopicMatch
import Mqtt5Client.SubFilter
import Mqtt5Client.TimerHandles
import Mqtt5Client.Timers
import Mqtt5Client.Negotiation
import Mqtt5Client.Authentication
import Mqtt5Client.Waiting
import Mqtt5Client.Survival
import Mqtt5Client.Limits
import Mqtt5Client.SubRecord
import Mqtt5Client.Delivery
import Mqtt5Client.TopicAliases
import Mqtt5Client.OpRegistry
import Mqtt5Client.InFlight
import Mqtt5Client.Resumption
import Mqtt5Client.Walk
import Mqtt5Client.Link
import Mqtt5Client.Phases
import Mqtt5Client.Sender
import Mqtt5Client.SendAliases
import Mqtt5Client.AliasPool
import Mqtt5Client.TimerOwners
import Mqtt5Client.Expiry
import Mqtt5Client.TimerSlots
import Mqtt5Client.Broker
import Mqtt5Client.Lib.Agenda
import Mqtt5Client.Calls
import Mqtt5Client.Preparation
import Mqtt5Client.Handles
import Mqtt5Client.FullCalls
