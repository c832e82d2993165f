import Mqtt5Client.Session

/-!
# Mqtt5Client — acknowledgements of publishes

`SendOp::handle` of PUBACK, PUBREC and PUBCOMP, and the part of `ClientImpl` that finds the
publish an acknowledgement belongs to. An acknowledgement that arrives out of order makes the client
resend everything up to the acknowledged publish.
-/

namespace Mqtt5

namespace Client

variable (env : Env)

/-! ## `SendOp::handle` -/

/-- `Op::fillUserProps`: the handler already holds no more than the limit. -/
def fillUserProps (cfg : Config) (h : PropsHandler) : List UserProp :=
  if cfg.userPropsLimit = 0 then h.userProps else h.userProps.take cfg.userPropsLimit

/-- The properties part of the three handlers: the completed response, or the error text. -/
def ackProps (name : String) (props : Option PropsList) (response : PublishResponse)
    (s : Client) : Except String PublishResponse :=
  match props with
  | none => .ok response
  | some props =>
    let h := PropsHandler.ofProps env.cfg props
    if h.protocolError then .error ("Invalid properties in " ++ name ++ " message")
    else if h.reasonStr.isSome && !s.sessionState.problemInfoAllowed then
      .error ("Received reason string in " ++ name ++
        " when \"problem information\" was disabled in CONNECT.")
    else if !h.userProps.isEmpty && !s.sessionState.problemInfoAllowed then
      .error ("Received user properties in " ++ name ++
        " when \"problem information\" was disabled in CONNECT.")
    else
      .ok { response with reasonStr := h.reasonStr, userProps := fillUserProps env.cfg h }

/-- The early return of the handlers: the scope guards complete the operation and then terminate
the connection. -/
def ackProtocolError (op : SendOp) (msg : String) (s : Client) : Client :=
  ((s.errorLog msg).sendOpCompleteWithCb env op .protocolError none).protocolErrorTermination env

/-- The assertions at the beginning of the PUBACK and PUBREC handlers. -/
def assertInFlight (op : SendOp) (s : Client) : Client :=
  (s.assert .send op.published).assert .send (decide (0 < s.clientState.inFlightSends))

/-- `SendOp::handle(PubackMsg&)`. -/
def sendOpHandlePuback (op : SendOp) (msg : AckMsg) (s : Client) : Client :=
  let s := (s.assertInFlight op).timerCancel op.responseTimer
  if op.qos ≠ .atLeastOnceDelivery then
    s.ackProtocolError env op "Unexpected PUBACK for Qos2 message"
  else
    let response : PublishResponse := { reasonCode := msg.reasonCode.getD ReasonCode.success }
    let s :=
      if op.registeredAlias && decide (response.reasonCode < ReasonCode.unspecifiedError) then
        s.confirmRegisteredAlias op
      else s
    -- the alias is confirmed whatever the properties are
    match s.ackProps env "PUBACK" msg.props response with
    | .error text => s.ackProtocolError env op text
    | .ok response => s.sendOpCompleteWithCb env op .complete (some response)

/-- The end of `SendOp::handle(PubrecMsg&)`: the publish is acknowledged and PUBREL follows. -/
def sendPubrel (op : SendOp) (s : Client) : Client :=
  let r := (s.modifySendOp op.id ({ · with acked := true, sendAttempts := 0 })).sendMessage env
    (.pubrel { packetId := op.packetId }) (some op.source)
  if r.2 ≠ .success then
    (r.1.errorLog "Failed to resend PUBREL message.")
      |>.sendOpCompleteWithCb env op .internalError none
  else
    (r.1.modifySendOp op.id
      ({ · with reasonCode := ReasonCode.success, sendAttempts := 1 })).restartSendTimer op

/-- `SendOp::handle(PubrecMsg&)`. -/
def sendOpHandlePubrec (op : SendOp) (msg : AckMsg) (s : Client) : Client :=
  let s := (s.assertInFlight op).timerCancel op.responseTimer
  if op.qos ≠ .exactlyOnceDelivery then
    s.ackProtocolError env op "Unexpected PUBREC for Qos1 message"
  else if op.acked then
    s.ackProtocolError env op "Double PUBREC message"
  else
    match s.ackProps env "PUBREC" msg.props {} with
    | .error text => s.ackProtocolError env op text
    | .ok response =>
      let rc := msg.reasonCode.getD ReasonCode.success
      -- the broker refused the message, no PUBREL follows
      if ReasonCode.unspecifiedError ≤ rc then
        s.sendOpCompleteWithCb env op .complete (some { response with reasonCode := rc })
      else
        (if op.registeredAlias then s.confirmRegisteredAlias op else s).sendPubrel env op

/-- `SendOp::handle(PubcompMsg&)`. -/
def sendOpHandlePubcomp (op : SendOp) (msg : AckMsg) (s : Client) : Client :=
  let s := s.timerCancel op.responseTimer
  if op.qos ≠ .exactlyOnceDelivery then
    s.ackProtocolError env op "Unexpected PUBCOMP for Qos1 message"
  else if !op.acked then
    s.ackProtocolError env op "Unexpected PUBCOMP without PUBREC"
  else
    let rc := msg.reasonCode.getD ReasonCode.success
    let response : PublishResponse :=
      { reasonCode := if rc ≠ ReasonCode.success then rc else op.reasonCode }
    match s.ackProps env "PUBCOMP" msg.props response with
    | .error text => s.ackProtocolError env op text
    | .ok response => s.sendOpCompleteWithCb env op .complete (some response)

/-! ## Finding the publish -/

/-- `ClientImpl::findSendOp`. -/
def findSendOp (s : Client) (packetId : Nat) : Option SendOp :=
  s.sendOps.find? (·.packetId == packetId)

/-- The loop of `ClientImpl::isLegitSendAck`. -/
def legitInOrder (front : OpId) (op : SendOp) (pubcompAck : Bool) : List SendOp → Bool
  | [] => false
  | x :: xs =>
    if x.id == op.id then true
    else if !x.acked then false
    else if pubcompAck && op.id != front then false
    else legitInOrder front op pubcompAck xs

/-- `ClientImpl::isLegitSendAck`. -/
def isLegitSendAck (op : SendOp) (pubcompAck : Bool) (s : Client) : Bool :=
  match s.sendOps with
  | [] => false
  | front :: _ => op.published && legitInOrder front.id op pubcompAck s.sendOps

/-- The loop of `ClientImpl::resendAllUntil`. Resending may destroy the publish; then another one (or
nothing) is found at the same position. Every round makes the rest of the queue shorter, so its
length is enough fuel. -/
def resendLoop (target : OpId) : Nat → Nat → Client → Client
  | 0, _, s => s
  | fuel + 1, idx, s =>
    match s.sendOps[idx]? with
    | none => s
    | some op =>
      let s := s.forceDupResend env op
      if op.id == target then s
      -- otherwise the publish was destroyed and the next one stands here
      else if s.sendOps[idx]?.map (·.id) == some op.id then resendLoop target fuel (idx + 1) s
      else resendLoop target fuel idx s

/-- `ClientImpl::resendAllUntil`. -/
def resendAllUntil (target : OpId) (s : Client) : Client :=
  resendLoop env target s.sendOps.length 0 s

/-- `ClientImpl::processPublishAckMsg`; `false` when the packet identifier is not known. -/
def processPublishAckMsg (packetId : Nat) (pubcompAck : Bool)
    (handle : SendOp → Client → Client) (s : Client) : Client × Bool :=
  let s := s.keepAliveMessageReceived
  match s.findSendOp packetId with
  | none => (s, false)
  | some op =>
    if s.isLegitSendAck op pubcompAck then (handle op s, true)
    else (s.resendAllUntil env op.id, true)

/-- `ClientImpl::handle(PubackMsg&)`. -/
def handlePuback (msg : AckMsg) (s : Client) : Client :=
  let r := s.processPublishAckMsg env msg.packetId false (sendOpHandlePuback env · msg)
  if r.2 then r.1 else r.1.errorLog "PUBACK with unknown packet id"

/-- `ClientImpl::handle(PubrecMsg&)`. -/
def handlePubrec (msg : AckMsg) (s : Client) : Client :=
  let r := s.processPublishAckMsg env msg.packetId false (sendOpHandlePubrec env · msg)
  if r.2 then r.1
  else
    (r.1.errorLog "PUBREC with unknown packet id").post env
      (.pubrel { packetId := msg.packetId, reasonCode := some ReasonCode.packetIdNotFound,
                 props := some [] })

/-- `ClientImpl::handle(PubcompMsg&)`. -/
def handlePubcomp (msg : AckMsg) (s : Client) : Client :=
  let r := s.processPublishAckMsg env msg.packetId true (sendOpHandlePubcomp env · msg)
  if r.2 then r.1 else r.1.errorLog "PUBCOMP with unknown packet id"

end Client

end Mqtt5
