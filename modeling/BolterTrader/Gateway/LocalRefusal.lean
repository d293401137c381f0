import BolterTrader.Gateway.Classify

/-! Placements whose native error is a local budget refusal. -/
namespace BolterTrader.Gateway
open Foundations Exchange Adapters

theorem commandEvidence_of_refusal {org:NativeError} {rfs:LocalRateLimitError}
 (h:org.as? Fault.localRateLimit?=some rfs) (nrm:Exchange.Error)
 (op:String):
 commandEvidence nrm org op =
  ⟨.rateLimit,recordedStatus org nrm.details.httpStatus,
   refusedCommand rfs.action op⟩:=by
 rw[commandEvidence,Evidence.settled_of_refusal h]
 cases ht : transientResponse org with
 | true=>
  simp only[if_true]
  rw[recordedStatus_of_transient ht 0 nrm.details.httpStatus]
 | false=>rfl

theorem commandState_eq_rejected_iff (ack:OrderAcknowledgement) (org:NativeError):
 commandState ack org=.rejected ↔ transientResponse org=false∧ack.state=.rejected:=by
 unfold commandState
 grind

/-- When a refusal by the local budget is reported as unknown. -/
theorem refusal_unknown_iff (id:String) (request:PlaceOrderRequest) (now:Int)
 (ack:OrderAcknowledgement) (mapped original:NativeError) (normalized:Exchange.Error)
 (refusal:LocalRateLimitError) (hm:mapped.as? Fault.exchange?=some normalized)
 (h:original.as? Fault.localRateLimit?=some refusal) (venue:Venue) (product:Product)
 (operation:String):
 (refusal.action≠"place" →
  (commandVerdict id request now ack (some mapped) original venue product operation).status=.unknown) ↔
 (refusal.action="place"∨
  (recordedStatus original normalized.details.httpStatus≠0∧refusedCommand refusal.action operation=false∧
   (transientResponse original=true∨ack.state≠.rejected))):=by
 rw[commandVerdict_status id request now ack hm original,commandEvidence_of_refusal h]
 rw[verdict_unknown_iff,←Bool.not_eq_true,rejects_rateLimit,commandState_eq_rejected_iff]
 grind

theorem refusal_unknown_iff_answered :
 ("read" ≠ "place" →
  (commandVerdict "bybit:perp:BTC-USDT" {} 0 {state:=.ambiguous} (some (newError .transport {}))
   (.wrap (.http {statusCode:=400}) (.leaf (.localRateLimit {action:="read" })))
   .bybit .perp "PlaceOrder").status=.unknown) ↔
 ("read" = "place"∨((400:Int)≠0∧refusedCommand "read" "PlaceOrder" = false∧
  (false=true∨OrderAckState.ambiguous≠.rejected))):=
 refusal_unknown_iff "bybit:perp:BTC-USDT" {} 0 {state:=.ambiguous} (newError .transport {})
  (.wrap (.http {statusCode:=400}) (.leaf (.localRateLimit {action:="read" })))
  ⟨.transport,{}⟩ {action:="read" } rfl rfl .bybit .perp "PlaceOrder"

theorem refused_read_rejected :
 (commandVerdict "lighter:perp:BTC-USDC" {} 0 {state:=.ambiguous} (some (newError .transport {}))
  (.leaf (.localRateLimit {action:="read" })) .lighter .perp "PlaceOrder").status=.rejected:=by
 decide

end BolterTrader.Gateway
