import BolterTrader.Exchange.Orders

/-! The exact order lookup of the exchange layer (`exchange/exact_order_lookup.go`):
the request, and a result that has to carry the evidence it rests on. -/
namespace BolterTrader.Exchange
open Foundations

def isPortableClientOrderId (id:String):Bool:=
 id≠"" && id.toList.head?≠some '0' && id.toList.all Char.isDigit &&
  ((Decimal.nat? id.toList).map fun n=>decide (0<n∧n<2^48)).getD false

structure ExactOrderLookupRequest where
 instrument:Option Instrument:=none
 clientOrderId:String:=""
 venueOrderId:String:=""

def ExactOrderLookupRequest.validate (request:ExactOrderLookupRequest):Option Error:=
 if request.clientOrderId≠""∧!isPortableClientOrderId request.clientOrderId then
  some (invalidRequest "client order id must be a positive decimal uint48")
 else if (request.clientOrderId≠"")=(request.venueOrderId≠"") then
  some (invalidRequest "exact order lookup requires exactly one order identity")
 else request.instrument.bind Instrument.validate

inductive ExactOrderLookupStatus where
 | unset | found | notFound | unconfirmed
 deriving DecidableEq

inductive ExactOrderEvidenceMethod where
 | unset | clientOrderId | venueOrderId | openOrders | historyPage
 deriving DecidableEq

structure ExactOrderScope where
 venue:Venue:=.unset
 product:Product:=.unset
 instrument:Option Instrument:=none

def ExactOrderScope.validate (scope:ExactOrderScope):Option Error:=
 if scope.venue=.unset∨scope.product=.unset then
  some (invalidRequest "exact order evidence scope is incomplete")
 else match scope.instrument with
  | none=>none
  | some instrument=>instrument.validate.or <|
   if instrument.identity.venue≠scope.venue∨instrument.identity.product≠scope.product then
    some (invalidRequest "exact order evidence instrument scope mismatch")
   else none

structure ExactOrderEvidence where
 scope:ExactOrderScope:={}
 method:ExactOrderEvidenceMethod:=.unset
 authoritative:Bool:=false
 complete:Bool:=false
 observedClientOrderId:String:=""
 observedVenueOrderId:String:=""
 nativeCursor:String:=""

def ExactOrderEvidence.validate (evidence:ExactOrderEvidence):Option Error:=
 evidence.scope.validate.or <|
  if evidence.observedClientOrderId≠""∧!isPortableClientOrderId evidence.observedClientOrderId then
   some (invalidRequest "exact order evidence client order id must be a positive decimal uint48")
  else match evidence.method with
   | .clientOrderId=>
    if evidence.observedClientOrderId="" then
     some (invalidRequest "client-order-id evidence requires a checked client order id")
    else none
   | .venueOrderId=>
    if evidence.observedVenueOrderId="" then
     some (invalidRequest "venue-order-id evidence requires a checked venue order id")
    else none
   | .openOrders | .historyPage=>none
   | .unset=>some (invalidRequest "exact order evidence method is unknown")

structure ExactOrderLookupResult where
 status:ExactOrderLookupStatus:=.unset
 order:Order:={}
 evidence:ExactOrderEvidence:={}

namespace ExactOrderLookupResult

def validateDecisive (result:ExactOrderLookupResult):Option Error:=
 if !result.evidence.authoritative || !result.evidence.complete then
  some (invalidRequest "exact found/not-found requires authoritative complete evidence")
 else if result.evidence.method=.historyPage then
  some (invalidRequest "history pagination is not exact order evidence")
 else if result.evidence.observedClientOrderId=""∧result.evidence.observedVenueOrderId="" then
  some (invalidRequest "exact found/not-found evidence has no checked order identity")
 else none

def validateFound (result:ExactOrderLookupResult):Option Error:=
 if result.order.orderId=""∧result.order.clientOrderId="" then
  some (invalidRequest "found exact order has no order identity")
 else if result.evidence.observedClientOrderId≠""∧
   result.order.clientOrderId≠result.evidence.observedClientOrderId then
  some (invalidRequest "found exact order client identity does not match evidence")
 else if result.evidence.observedVenueOrderId≠""∧
   result.order.orderId≠result.evidence.observedVenueOrderId then
  some (invalidRequest "found exact order venue identity does not match evidence")
 else none

def validate (result:ExactOrderLookupResult):Option Error:=
 if result.status=.unset then some (invalidRequest "unknown exact order lookup status")
 else result.evidence.validate.or <|
  (if result.status=.found∨result.status=.notFound then result.validateDecisive else none).or <|
  if result.status=.found then result.validateFound else none

theorem validateFound_of_validate {res:ExactOrderLookupResult} (h:res.validate=none)
 (hfd:res.status=.found):res.validateFound=none:=by
 simp only[validate,hfd,reduceCtorEq,if_false,true_or,if_true,Option.or_eq_none_iff] at h
 exact h.2.2

theorem identity_of_validate {res:ExactOrderLookupResult} (h:res.validate=none)
 (hfd:res.status=.found):
 (res.evidence.observedClientOrderId≠"" →
   res.order.clientOrderId=res.evidence.observedClientOrderId)∧
  (res.evidence.observedVenueOrderId≠"" → res.order.orderId=res.evidence.observedVenueOrderId):=by
 have hche:=validateFound_of_validate h hfd
 grind [validateFound]

end ExactOrderLookupResult

theorem ExactOrderLookupRequest.one_identity {req:ExactOrderLookupRequest} (h:req.validate=none):
 (req.clientOrderId≠""∧req.venueOrderId="")∨
  (req.clientOrderId=""∧req.venueOrderId≠""):=by
 grind [validate]

end BolterTrader.Exchange
