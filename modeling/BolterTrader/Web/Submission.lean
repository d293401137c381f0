import BolterTrader.Foundations.Transition
import BolterTrader.Web.Submit

/-! One submission among its surroundings. -/
namespace BolterTrader.Web
open Foundations Foundations.Transition Exchange Adapters Gateway Option

inductive Call where
 | inFlight | executed | refused
 deriving DecidableEq

structure Placement where
 id:String
 request:PlaceOrderRequest

/-! ## Answers on their way to the client -/

inductive Barrier where
 | crossOrigin | unauthenticated | unauthorized | invalidJson

def Barrier.response {α:Type}:Barrier→Response α
 | .crossOrigin=>writeError 403 "CSRF" "cross-origin request refused"
 | .unauthenticated=>writeError 401 "UNAUTHENTICATED" "sign in required"
 | .unauthorized=>writeError 401 "UNAUTHORIZED" "missing or invalid gateway token"
 | .invalidJson=>writeError 400 "INVALID_JSON" "request body is not valid JSON for this endpoint"

def gatewayUnavailable {α:Type}:Response α:=writeError 502 "GATEWAY_UNAVAILABLE" "gateway is unreachable"

inductive PlaceAnswer where
 | unavailable
 | barred (barrier:Barrier)
 | refused (err:RequestError)
 | settled (ack:OrderAcknowledgement) (err:Option NativeError) (now:Int)

def PlaceAnswer.response (order:Placement):PlaceAnswer→Response PlaceResult
 | .unavailable=>gatewayUnavailable
 | .barred barrier=>barrier.response
 | .refused err=>placeOrder (.error err)
 | .settled ack err now=>placeOrder (.ok (classify order.id order.request ack err now))

def PlaceAnswer.truthful (order:Placement) (call:Call):PlaceAnswer→Bool
 | .unavailable=>true
 | .barred _ | .refused _=>call == .refused
 | .settled ack err now=>
  match (classify order.id order.request ack err now).status with
  | .accepted=>call == .executed
  | .rejected=>call == .refused
  | .unknown=>true

inductive LookupAnswer where
 | unavailable
 | barred (barrier:Barrier)
 | refused (err:RequestError)
 | answered (answer:ExactLookup.Answer)

def LookupAnswer.response (order:Placement):LookupAnswer→Response LookupResult
 | .unavailable=>gatewayUnavailable
 | .barred barrier=>barrier.response
 | .refused err=>respond (.error err)
 | .answered answer=>respond (lookup order.id answer)

def LookupAnswer.truthful (call:Call):LookupAnswer→Bool
 | .answered (.ok result)=>
  match result.status with
  | .found=>call == .executed
  | .notFound=>call != .executed
  | .unconfirmed | .unset=>true
 | _=>true

def LookupAnswer.Missing (answer:LookupAnswer):Prop:=
 ∃ result,answer=.answered (.ok result)∧result.status=.notFound

inductive Transit where
 | whole (statusText:String)
 | cut (statusText:String)

def Transit.fetched {α:Type} (response:Response α):Transit→Fetched α
 | .whole statusText=>.responded response statusText
 | .cut statusText=>.responded {response with body:=.unreadable} statusText

/-! ## Steps -/

structure World where
 call:Call:=.inFlight
 place:Option (Reply PlaceResult):=none
 lookups:List (Reply LookupResult):=[]
 answer:Option LookupAnswer:=none

def World.returned (order:Placement) (w:World):Option Outcome:=
 w.place.bind fun reply=>submitOrder order.request.clientOrderId reply w.lookups

def World.resolving (order:Placement) (w:World):Bool:=w.place.isSome && (w.returned order).isNone

inductive Event where
 | deliver
 | refuse
 | placeFailed (message:String)
 | placeAnswered (answer:PlaceAnswer) (transit:Transit)
 | lookupFailed (message:String)
 | lookupAnswered (answer:LookupAnswer)
 | lookupReceived (transit:Transit)

def step (order:Placement) (w:World):Event→Option World
 | .deliver=>if w.call=.inFlight then some {w with call:=.executed} else none
 | .refuse=>if w.call=.inFlight then some {w with call:=.refused} else none
 | .placeFailed message=>
  if w.place.isNone then some {w with place:=some (request true (.failed message))} else none
 | .placeAnswered answer transit=>
  -- Checking the answer when it arrives is as good as when it was given: a
  -- call that is executed or refused stays so.
  if w.place.isNone∧answer.truthful order w.call then
   some {w with place:=some (request true (transit.fetched (answer.response order)))}
  else none
 | .lookupFailed message=>
  if w.resolving order then
   some {w with lookups:=w.lookups++[request false (.failed message)],answer:=none}
  else none
 | .lookupAnswered answer=>
  if w.resolving order∧w.answer.isNone∧answer.truthful w.call then some {w with answer:=some answer}
  else none
 | .lookupReceived transit=>
  match w.answer with
  | some answer=>
   if w.resolving order then
    some {w with
     lookups:=w.lookups++[request false (transit.fetched (answer.response order))],answer:=none}
   else none
  | none=>none

def Event.AfterPlacement (w:World):Event→Prop
 | .lookupAnswered (.answered (.ok result))=>result.status=.notFound→ w.call≠.inFlight
 | _=>True

/-! ## What a reply shows -/

section
variable {α:Type} {order:Placement} {call:Call} {message:String} {placement:Bool} {transit:Transit}

theorem request_threw {rsp:Response α} {err:ApiError}
 (h:request placement (transit.fetched rsp)=.error (.api err)):err.status=rsp.status:=by
 cases transit with
 | whole text | cut text=>
  simp only[Transit.fetched] at h
  obtain hrp | ⟨payload,-,hrp⟩ | hrp:=request_cases placement _ text
  · cases hrp.symm.trans h
  · cases hrp.symm.trans h
  · cases hrp.symm.trans h
    exact apiError_status _ text

theorem request_returned {rsp:Response α} {payload:α}
 (h:request placement (transit.fetched rsp)=.ok (some payload)):rsp.body=.value payload:=by
 cases transit with
 | whole text | cut text=>
  simp only[Transit.fetched] at h
  obtain hrp | ⟨other,hbody,hrp⟩ | hrp:=request_cases placement _ text
  · cases hrp.symm.trans h
  all_goals grind

theorem PlaceAnswer.refused_of_rejected {ans:PlaceAnswer} (htrue:ans.truthful order call=true)
 (h:placeOutcome (request true (transit.fetched (ans.response order)))=some (.rejected message)):
 call=.refused:=by
 cases ans with
 | barred | refused=>simpa[PlaceAnswer.truthful] using htrue
 | unavailable=>
  obtain ⟨err,hrp,hlow,hhigh⟩ | ⟨res,hrp,-⟩:=placeOutcome_rejected h
  · have hst:err.status=502:=request_threw hrp
    omega
  · cases request_returned hrp
 | settled ack err now=>
  have hver:(classify order.id order.request ack err now).status=.rejected:=by
   obtain ⟨thr,hrp,hlow,hhigh⟩ | ⟨res,hrp,hres⟩:=placeOutcome_rejected h
   · have hst:=request_threw hrp
     simp only[PlaceAnswer.response,placeOrder] at hst
     -- Of the three verdicts only "rejected" travels with a 4xx status.
     grind
   · cases request_returned hrp
     exact hres
  simpa[PlaceAnswer.truthful,hver] using htrue

theorem LookupAnswer.missing_of_rejected {ans:LookupAnswer}
 (h:lookupOutcome (request false (transit.fetched (ans.response order)))=some (.rejected message)):
 ans.Missing:=by
 obtain ⟨res,hrp,hst⟩:=lookupOutcome_rejected h
 have hbody:=request_returned hrp
 cases ans with
 | unavailable=>cases hbody
 | barred brr=>cases brr<;>cases hbody
 | refused err=>exact absurd hbody (fail_body_ne_value err res)
 | answered ans=>
  simp only[LookupAnswer.response] at hbody
  cases hloo : lookup order.id ans with
  | error err=>
   rw[hloo] at hbody
   exact absurd hbody (fail_body_ne_value err res)
  | ok=>
   rw[hloo] at hbody
   cases hbody
   obtain ⟨exact,rfl,hmis⟩:=lookup_notFound hloo hst
   exact ⟨exact,rfl,hmis⟩

theorem LookupAnswer.Missing.not_executed {ans:LookupAnswer} (hmis:ans.Missing)
 (htrue:ans.truthful call=true):call≠.executed:=by
 obtain ⟨res,rfl,hst⟩:=hmis
 simpa[LookupAnswer.truthful,hst] using htrue

end

/-! ## Invariants of a run -/

section
variable {order:Placement} {w next later:World} {event:Event} {message:String}

theorem step_cases (h:step order w event=some next):
 (∃ call,w.call=.inFlight∧next = {w with call})∨
 (∃ reply,next = {w with place:=some reply}∧
  ∀ message,placeOutcome reply=some (.rejected message)→ w.call=.refused)∨
 (∃ reply,w.resolving order=true∧
  next = {w with lookups:=w.lookups++[reply],answer:=none}∧
  ∀ message,lookupOutcome reply=some (.rejected message) → ∃ answer,w.answer=some answer∧answer.Missing)∨
 (∃ answer,event=.lookupAnswered answer∧answer.truthful w.call=true∧
  next = {w with answer:=some answer}):=by
 cases event with
 | deliver=>
  obtain ⟨hcall,hnext⟩:=ite_none_right_eq_some.mp h
  grind
 | refuse=>
  obtain ⟨hcall,hnext⟩:=ite_none_right_eq_some.mp h
  grind
 | placeFailed=>
  obtain ⟨-,hnext⟩:=ite_none_right_eq_some.mp h
  refine .inr (.inl ⟨_,(some.inj hnext).symm,?_⟩)
  intro message hrej
  cases hrej
 | placeAnswered=>
  obtain ⟨⟨-,htrue⟩,hnext⟩:=ite_none_right_eq_some.mp h
  refine .inr (.inl ⟨_,(some.inj hnext).symm,?_⟩)
  intro message hrej
  exact PlaceAnswer.refused_of_rejected htrue hrej
 | lookupFailed=>
  obtain ⟨hres,hnext⟩:=ite_none_right_eq_some.mp h
  refine .inr (.inr (.inl ⟨_,hres,(some.inj hnext).symm,?_⟩))
  intro message hrej
  cases hrej
 | lookupAnswered answer=>
  obtain ⟨⟨-,-,htrue⟩,hnext⟩:=ite_none_right_eq_some.mp h
  grind
 | lookupReceived=>
  simp only[step] at h
  cases hans : w.answer with
  | none=>
   rw[hans] at h
   cases h
  | some answer=>
   rw[hans] at h
   obtain ⟨hres,hnext⟩:=ite_none_right_eq_some.mp h
   refine .inr (.inr (.inl ⟨_,hres,(some.inj hnext).symm,?_⟩))
   intro message hrej
   exact ⟨answer,rfl,LookupAnswer.missing_of_rejected hrej⟩

/-- What was reported as rejected has not executed. -/
structure Sound (w:World):Prop where
 place:∀ reply message,w.place=some reply→ placeOutcome reply=some (.rejected message) → w.call=.refused
 lookups:∀ reply∈w.lookups,∀ message,lookupOutcome reply=some (.rejected message)→ w.call=.refused
 answer:∀ answer,w.answer=some answer→ answer.Missing→ w.call=.refused

theorem sound_start:Sound {} where
 place:=by
  intro reply message h
  cases h
 lookups:=by
  intro reply h
  cases h
 answer:=by
  intro answer h
  cases h

theorem Sound.advance (h:Sound w) (hcall:w.call=.inFlight) (call:Call):Sound {w with call} where
 place:=by
  intro reply message hrp hrej
  cases hcall.symm.trans (h.place reply message hrp hrej)
 lookups:=by
  intro reply hrp message hrej
  cases hcall.symm.trans (h.lookups reply hrp message hrej)
 answer:=by
  grind [answer]

theorem Sound.step (h:Sound w) (haf:event.AfterPlacement w) (hstep:step order w event=some next):
 Sound next:=by
 obtain ⟨call,hcall,rfl⟩ | ⟨reply,rfl,hrp⟩ | ⟨reply,-,rfl,hrp⟩ | ⟨answer,rfl,htrue,rfl⟩:=step_cases hstep
 · exact h.advance hcall call
 · refine {place:=?_,lookups:=h.lookups,answer:=h.answer}
   grind
 · refine {place:=h.place,lookups:=?_,answer:=?_}
   · intro gvn hgiv message hrej
     obtain hear | hlast:=List.mem_append.mp hgiv
     · exact h.lookups gvn hear message hrej
     · cases List.mem_singleton.mp hlast
       obtain ⟨answer,hans,hmis⟩:=hrp message hrej
       exact h.answer answer hans hmis
   · grind
 · refine {place:=h.place,lookups:=h.lookups,answer:=?_}
   intro gvn hgiv hmis
   cases hgiv
   have hexe:=hmis.not_executed htrue
   obtain ⟨res,rfl,hst⟩:=hmis
   have hfl:=haf hst
   -- Neither executed, since the venue does not have it, nor still on its way.
   cases hcall : w.call with
   | inFlight=>exact absurd hcall hfl
   | executed=>exact absurd hcall hexe
   | refused=>rfl

theorem Sound.refused (h:Sound w) (hrej:w.returned order=some (.rejected message)):
 w.call=.refused:=by
 obtain ⟨reply,hplace,hret⟩:=bind_eq_some_iff.mp hrej
 obtain houtc | ⟨found,hfd,houtc⟩:=submitOrder_rejected hret
 · exact h.place reply message hplace houtc
 · exact h.lookups found hfd message houtc

theorem refused_step (href:w.call=.refused) (hstep:step order w event=some next):
 next.call=.refused:=by
 obtain ⟨call,hcall,-⟩ | ⟨reply,rfl,-⟩ | ⟨reply,-,rfl,-⟩ | ⟨ans,-,-,rfl⟩:=step_cases hstep
 all_goals grind

/-- A placement reported as rejected never executes, if no lookup overtakes it. -/
theorem rejected_never_executed (order:Placement) (before after:List Event)
 (hafter:Along (step order) (fun w event=>event.AfterPlacement w) {} before)
 (hbefore:run (step order) {} before=some w) (hrejected:w.returned order=some (.rejected message))
 (hlater:run (step order) w after=some later):later.call≠.executed:=by
 have hso:Sound w:=by
  refine invariant_along Sound ?_ sound_start hafter hbefore
  intro w event next hw hok hstep
  exact hw.step hok hstep
 have href:later.call=.refused:=by
  refine invariant (fun w=>w.call=.refused) ?_ (hso.refused hrejected) hlater
  intro w event next hw hstep
  exact refused_step hw hstep
 rw[href]
 decide

def limitBuy:Placement:=
 { id:="gate:spot:BTC-USDT"
   request:=
    { instrument:=
       { identity:={venue:=.gate,product:=.spot,symbol:="BTC-USDT",baseAsset:="BTC",
                     quoteAsset:="USDT",nativeSymbol:="BTC_USDT" }
         rules:={priceIncrement:=⟨1,-1⟩,quantityIncrement:=⟨1,-5⟩}}
      clientOrderId:="7",side:=.buy,type:=.limit,quantity:=⟨1,0⟩
      limitPrice:=⟨50000,0⟩,limitPolicy:=.resting}}

def noSuchOrder:ExactOrderLookupResult:=
 { status:=.notFound
   evidence:=ExactLookup.exactLookupEvidence
    {instrument:=some limitBuy.request.instrument,clientOrderId:=limitBuy.request.clientOrderId}
    .gate .spot limitBuy.request.instrument true true}

def refusedFirst:List Event:=
 [.placeFailed "Failed to fetch",.refuse,.lookupAnswered (.answered (.ok noSuchOrder)),
  .lookupReceived (.whole "OK")]

theorem rejected_never_executed_refused :
 ∃ w,run (step limitBuy) {} refusedFirst=some w∧
  w.returned limitBuy=some (.rejected "Order was not placed")∧w.call≠.executed:=by
 refine ⟨_,rfl,by rfl,rejected_never_executed limitBuy refusedFirst [] ?_ rfl (by rfl) rfl⟩
 exact .cons rfl trivial (.cons rfl trivial (.cons rfl (fun _=>by decide) (.cons rfl trivial trivial)))

theorem inFlight_rejected_then_executed :
 ∃ rejected executed,
  run (step limitBuy) {} [.placeFailed "Failed to fetch",.lookupAnswered (.answered (.ok noSuchOrder)),
   .lookupReceived (.whole "OK")]=some rejected∧
  rejected.returned limitBuy=some (.rejected "Order was not placed")∧
  run (step limitBuy) rejected [.deliver]=some executed∧executed.call=.executed:=
 ⟨_,_,rfl,by rfl,rfl,rfl⟩

end

end BolterTrader.Web
