import BolterTrader.Adapters.GateOrders
import BolterTrader.ExactLookup.Shared

/-! Exact lookups on Gate (`exact_lookup_gate.go`). -/
namespace BolterTrader.ExactLookup.Gate
open Foundations Foundations.Fallible Exchange Adapters Adapters.Gate List Option

def spotClient:ClientMeta:=⟨.gate,.spot⟩
def perpClient:ClientMeta:=⟨.gate,.perp⟩

def gateRequiredNativeInstrument (client:ClientMeta) (operation:String) (instrument:Instrument):
  Except NativeError String:=do
 check (instrument.validate.map fun err=>failure client operation .invalidRequest "" err.text)
 refuse (instrument.identity.venue≠client.venue∨instrument.identity.product≠client.product)
  (failure client operation .invalidRequest "" "instrument venue/product does not match client")
 return instrument.identity.nativeSymbol

/-! ## Status -/

def liveWords:List String:=["_new","_update","open"]

def wordStatus (word:String):Option String:=
 if word∈liveWords then some "open"
 else if word∈["filled","succeeded"] then some "filled"
 else if word∈["failed","small","depth_not_enough","trader_not_enough"] then some "rejected"
 else if word∈["ioc","poc","stp","liquidated","auto_deleveraging","auto_deleveraged","reduce_only",
  "position_close","position_closed","reduce_out","cb","expired"] then some "canceled"
 else portableWord word

def gateExactPortableOrderStatus (order:Order):Option String:=
 if order.quantity.isPositive then
  if order.filled.greaterThanOrEqual order.quantity then some "filled"
  else if order.filled.isPositive then some "partially_filled"
  else wordStatus (lowerWord order.status)
 else if order.filled.isPositive then some "partially_filled"
 else wordStatus (lowerWord order.status)

/-! ## The lookups -/

def gateExactLookupNotFound (err:NativeError):Bool:=
 match err.as? Fault.gate? with
 | some api=>GoText.equalFold api.label "ORDER_NOT_FOUND"
 | none=>false

def gateExactLookupOrderId (request:ExactOrderLookupRequest):String:=
 if request.clientOrderId≠"" then gateClientOrderId request.clientOrderId else request.venueOrderId

def gateExactLookupFound (client:ClientMeta) (request:ExactOrderLookupRequest) (instrument:Instrument)
  (order:Order):Answer:=do
 let malformed:=gateMalformed client operation
 let status ← required (malformed "exact order lookup response has unsupported order status")
  (gateExactPortableOrderStatus order)
 let order:={order with status}
 refuse (request.clientOrderId≠""∧order.clientOrderId≠request.clientOrderId)
  (malformed "exact order lookup response client order id mismatch")
 refuse (request.venueOrderId≠""∧order.orderId≠request.venueOrderId)
  (malformed "exact order lookup response order id mismatch")
 refuse (order.nativeSymbol≠instrument.identity.nativeSymbol∨order.nativeId≠instrument.identity.nativeId)
  (malformed "exact order lookup response instrument mismatch")
 exactLookupFound request .gate client.product instrument order

def rowNative:Row→String
 | .spot row=>row.currencyPair
 | .futures row _=>row.contract

def acceptRow (client:ClientMeta) (request:ExactOrderLookupRequest) (instrument:Instrument)
  (native:String) (row:Row):Answer:=do
 check (row.validate client operation)
 refuse (rowNative row≠native) (gateMalformed client operation "exact order lookup response instrument mismatch")
 gateExactLookupFound client request instrument (row.order instrument)

def readAnswer (client:ClientMeta) (request:ExactOrderLookupRequest) (instrument:Instrument)
  (native:String):Except NativeError (Option Row)→Answer
 | .error err=>
  if gateExactLookupNotFound err then exactLookupNotFound request .gate client.product instrument
  else returned {} (gateNormalizeErr client operation err)
 | .ok none=>.error (gateMalformed client operation "missing exact order response")
 | .ok (some row)=>acceptRow client request instrument native row

def lookupExactSpotOrder (sdk:String→String→Except NativeError (Option SpotOrder)) (ctx:Context)
  (request:ExactOrderLookupRequest):Answer:=do
 let instrument ← exactLookupInstrument ctx request .gate .spot
 let native ← gateRequiredNativeInstrument spotClient operation instrument
 readAnswer spotClient request instrument native
  ((sdk (gateExactLookupOrderId request) native).map (Option.map Row.spot))

def lookupExactPerpOrder (sdk:String→Except NativeError (Option FuturesOrder)) (ctx:Context)
  (request:ExactOrderLookupRequest):Answer:=do
 let instrument ← exactLookupInstrument ctx request .gate .perp
 let native ← gateRequiredNativeInstrument perpClient operation instrument
 let multiplier ← gateContractMultiplier perpClient operation instrument
 readAnswer perpClient request instrument native
  ((sdk (gateExactLookupOrderId request)).map (Option.map fun row=>Row.futures row multiplier))

/-! ## What status an accepted row gets -/

def terminalWords:List String:=["filled","canceled","rejected"]
def decidingWord (row:Row):String:=lowerWord (gateOrderStatus row.status row.finishAs)

theorem word_status:∀ word ∈ "" :: (statusWords++finishWords),∀ status∈wordStatus word,
 status="open"∧word∈liveWords∨status∈terminalWords∧word∉liveWords:=by
 decide

variable {client:ClientMeta}

theorem validate_words {operation:String} {row:Row} (h:row.validate client operation=none):
 gateValidateStatus client operation row.status row.finishAs=none:=by
 cases row with
 | spot=>
  simp only[Row.validate,gateValidateSpotOrder,or_eq_none_iff] at h
  exact h.2.2.2.2.2.2
 | futures=>
  simp only[Row.validate,gateValidateFuturesOrder,or_eq_none_iff] at h
  exact h.2.2

theorem decidingWord_mem {operation:String} {row:Row} (h:row.validate client operation=none):
 decidingWord row ∈ "" :: (statusWords++finishWords):=by
 have hwor:=validate_words h
 unfold gateValidateStatus at hwor
 split_ifs at hwor with hst hfin
 rw[not_and_not_right] at hst hfin
 unfold decidingWord gateOrderStatus
 split
 · grind
 · grind

def quantity (instrument:Instrument) (row:Row):ℚ:=(row.order instrument).quantity.value
def filled (instrument:Instrument) (row:Row):ℚ:=(row.order instrument).filled.value

theorem order_status (instrument:Instrument) (row:Row):
 (row.order instrument).status=gateOrderStatus row.status row.finishAs:=by
 cases row<;>rfl

variable {instrument:Instrument}

theorem portableStatus_cases {row:Row} {status:String}
 (h:gateExactPortableOrderStatus (row.order instrument)=some status):
 (status="filled"∧0<quantity instrument row∧quantity instrument row≤filled instrument row)∨
 (status="partially_filled"∧0<filled instrument row∧
  (quantity instrument row≤0∨filled instrument row<quantity instrument row))∨
 (wordStatus (decidingWord row)=some status∧filled instrument row≤0):=by
 unfold gateExactPortableOrderStatus at h
 rw[order_status] at h
 simp only[Decimal.isPositive_iff,Decimal.greaterThanOrEqual_iff] at h
 unfold quantity filled
 split_ifs at h with hq hfull hpart hpart
 · grind
 · grind
 · exact .inr (.inr ⟨h,not_lt.mp hpart⟩)
 · grind
 · exact .inr (.inr ⟨h,not_lt.mp hpart⟩)

variable {request:ExactOrderLookupRequest} {result:ExactOrderLookupResult}

theorem acceptRow_ok {native:String} {row:Row} (h:acceptRow client request instrument native row=.ok result):
 row.validate client operation=none∧rowNative row=native∧
  ∃ status,gateExactPortableOrderStatus (row.order instrument)=some status∧
   (row.order instrument).nativeSymbol=instrument.identity.nativeSymbol∧
   (row.order instrument).nativeId=instrument.identity.nativeId∧
   exactLookupFound request .gate client.product instrument {row.order instrument with status} =
    .ok result:=by
 obtain ⟨_,hval,h⟩:=bind_eq_ok h
 obtain ⟨_,hnat,h⟩:=bind_eq_ok h
 obtain ⟨status,hst,h⟩:=bind_eq_ok h
 replace h:=past (past h)
 obtain ⟨_,hsame,h⟩:=bind_eq_ok h
 obtain ⟨hsym,hid⟩:=not_or.mp (refuse_eq_ok hsame)
 exact ⟨check_eq_ok hval,not_not.mp (refuse_eq_ok hnat),status,required_eq_ok hst,
  not_not.mp hsym,not_not.mp hid,h⟩

/-- Which rows of Gate are reported with a terminal status. -/
theorem accepted_status_iff (client:ClientMeta) (request:ExactOrderLookupRequest) (instrument:Instrument)
 (native:String) (row:Row) (result:ExactOrderLookupResult)
 (h:acceptRow client request instrument native row=.ok result):
 (result.order.status∈terminalWords ↔
  (0<quantity instrument row∧quantity instrument row≤filled instrument row)∨
   (filled instrument row≤0∧decidingWord row∉liveWords))∧
 (result.order.status="partially_filled" ↔
  0<filled instrument row∧(quantity instrument row≤0∨filled instrument row<quantity instrument row))∧
 (result.order.status="open" ↔ filled instrument row≤0∧decidingWord row∈liveWords):=by
 obtain ⟨hval,-,status,hst,-,-,hfd⟩:=acceptRow_ok h
 obtain ⟨-,rfl⟩:=validated_eq_ok hfd
 rcases portableStatus_cases hst with ⟨rfl,hpos,hfull⟩ | ⟨rfl,hpos,hpart⟩ | ⟨hword,hnone⟩
 · have hfil:¬ filled instrument row≤0:=not_le.mpr (hpos.trans_le hfull)
   have hnoPa:¬ (quantity instrument row≤0∨filled instrument row<quantity instrument row):=
    not_or.mpr ⟨not_le.mpr hpos,not_lt.mpr hfull⟩
   simp[terminalWords,hpos,hfull,hfil,hnoPa]
 · have hfil:¬ filled instrument row≤0:=not_le.mpr hpos
   have hnoFu:¬ (0<quantity instrument row∧quantity instrument row≤filled instrument row):=by
    grind
   simp[terminalWords,hpos,hpart,hfil,hnoFu]
 · have hnoFu:¬ (0<quantity instrument row∧quantity instrument row≤filled instrument row):=
    fun ⟨hq,hfull⟩=>absurd (hq.trans_le hfull) (not_lt.mpr hnone)
   -- nothing was executed, so the word decides
   rcases word_status _ (decidingWord_mem hval) status hword with ⟨rfl,hlive⟩ | ⟨hter,hlive⟩
   all_goals grind [terminalWords,not_lt.mpr]

def SaidFinished (row:Row):Prop:=(row.finishAs≠""∧lowerWord row.finishAs∉liveWords)∨row.Finished

def btcUsdt:Instrument:=
 { identity:={venue:=.gate,product:=.spot,symbol:="BTC-USDT",baseAsset:="BTC",quoteAsset:="USDT",
               nativeSymbol:="BTC_USDT" }
   rules:={priceIncrement:=⟨1,-1⟩,quantityIncrement:=⟨1,-5⟩}}

def byClientId:ExactOrderLookupRequest:={instrument:=some btcUsdt,clientOrderId:="7" }

def partialIocAnswer:ExactOrderLookupResult:=
 { status:=.found
   order:={(Row.spot cancelledIoc).order btcUsdt with status:="partially_filled" }
   evidence:=exactLookupEvidence byClientId .gate .spot btcUsdt true true}

theorem accepted_status_cancelledIoc :
 partialIocAnswer.order.status="partially_filled" ↔
  0<filled btcUsdt (.spot cancelledIoc)∧(quantity btcUsdt (.spot cancelledIoc)≤0∨
   filled btcUsdt (.spot cancelledIoc)<quantity btcUsdt (.spot cancelledIoc)):=
 (accepted_status_iff spotClient byClientId btcUsdt "BTC_USDT" (.spot cancelledIoc) partialIocAnswer (by rfl)).2.1

theorem cancelledIoc_found_live :
 SaidFinished (.spot cancelledIoc)∧
  lookupExactSpotOrder (fun _ _=>.ok (some cancelledIoc)) .active byClientId=.ok partialIocAnswer∧
  partialIocAnswer.order.status∉terminalWords:=
 ⟨.inl (by decide),by rfl,by decide⟩

/-! ## The promise -/

def SaidNotFound {α:Type} (answer:Except NativeError α):Prop:=
 ∃ err api,answer=.error err∧err.as? Fault.gate?=some api∧
  GoText.equalFold api.label "ORDER_NOT_FOUND" = true

theorem saidNotFound_of_error {α:Type} {err:NativeError} (h:gateExactLookupNotFound err=true):
 SaidNotFound (.error err : Except NativeError α):=by
 unfold gateExactLookupNotFound at h
 cases hapi : err.as? Fault.gate? with
 | none=>simp[hapi] at h
 | some api=>exact ⟨err,api,rfl,hapi,by simpa[hapi] using h⟩

theorem readAnswer_kept {native:String} {fetched:Except NativeError (Option Row)} {said:Instrument→Prop}
 {converted:Instrument→Order→Prop} (hreq:request.validate=none)
 (hins:request.instrument=some instrument) (hsaid:SaidNotFound fetched→ said instrument)
 (hcon:∀ row status,fetched=.ok (some row)→ rowNative row=native →
  converted instrument {row.order instrument with status})
 (h:readAnswer client request instrument native fetched=.ok result):Kept request said converted result:=by
 cases fetched with
 | error=>
  simp only[readAnswer] at h
  split at h
  · next hnone=>exact .missing hins (hsaid (saidNotFound_of_error hnone)) (notFound_status h)
  · exact .failed h
 | ok found=>
  cases found with
  | none=>cases h
  | some row=>
   obtain ⟨-,hnat,status,-,hsym,hid,hfd⟩:=acceptRow_ok h
   exact .found hreq hins hfd hsym (.inr hid) (hcon row status rfl hnat)

theorem saidNotFound_of_map {α β:Type} {f:α→β} {answer:Except NativeError α}
 (h:SaidNotFound (answer.map f)):SaidNotFound answer:=by
 obtain ⟨err,api,hans,hrest⟩:=h
 cases answer with
 | error own=>exact ⟨own,api,rfl,by rwa[Except.error.inj hans]⟩
 | ok=>cases hans

theorem requiredNative_ok {operation native:String}
 (h:gateRequiredNativeInstrument client operation instrument=.ok native):
 native=instrument.identity.nativeSymbol:=by
 replace h:=past (past h)
 exact (Except.ok.inj h).symm

theorem map_eq_some {α β:Type} {f:α→β} {answer:Except NativeError (Option α)} {value:β}
 (h:answer.map (Option.map f)=.ok (some value)):∃ row,answer=.ok (some row)∧f row=value:=by
 obtain ⟨found,hans,hfd⟩:=map_eq_ok h
 obtain ⟨row,rfl,hrow⟩:=map_eq_some_iff.mp hfd
 exact ⟨row,hans,hrow⟩

def ConvertedSpot (sdk:String→String→Except NativeError (Option SpotOrder))
 (request:ExactOrderLookupRequest) (instrument:Instrument) (order:Order):Prop:=
 ∃ row,sdk (gateExactLookupOrderId request) instrument.identity.nativeSymbol=.ok (some row)∧
  row.currencyPair=instrument.identity.nativeSymbol∧
  order = {gateSpotOrder row instrument with status:=order.status}

def ConvertedPerp (sdk:String→Except NativeError (Option FuturesOrder))
 (request:ExactOrderLookupRequest) (instrument:Instrument) (order:Order):Prop:=
 ∃ row multiplier,sdk (gateExactLookupOrderId request)=.ok (some row)∧
  row.contract=instrument.identity.nativeSymbol∧
  gateContractMultiplier perpClient operation instrument=.ok multiplier∧
  order = {gateFuturesOrder row instrument multiplier with status:=order.status}

theorem lookupExactSpotOrder_kept {sdk:String→String→Except NativeError (Option SpotOrder)} {ctx:Context}
 (h:lookupExactSpotOrder sdk ctx request=.ok result):
 Kept request (fun instrument=>
   SaidNotFound (sdk (gateExactLookupOrderId request) instrument.identity.nativeSymbol))
  (ConvertedSpot sdk request) result:=by
 obtain ⟨instrument,hins,h⟩:=bind_eq_ok h
 obtain ⟨hreq,hins⟩:=exactLookupInstrument_ok hins
 obtain ⟨native,hnat,h⟩:=bind_eq_ok h
 rw[requiredNative_ok hnat] at h
 refine readAnswer_kept hreq hins saidNotFound_of_map ?_ h
 intro row status hrow hpair
 obtain ⟨own,hown,rfl⟩:=map_eq_some hrow
 exact ⟨own,hown,hpair,rfl⟩

theorem lookupExactPerpOrder_kept {sdk:String→Except NativeError (Option FuturesOrder)} {ctx:Context}
 (h:lookupExactPerpOrder sdk ctx request=.ok result):
 Kept request (fun _=>SaidNotFound (sdk (gateExactLookupOrderId request)))
  (ConvertedPerp sdk request) result:=by
 obtain ⟨instrument,hins,h⟩:=bind_eq_ok h
 obtain ⟨hreq,hins⟩:=exactLookupInstrument_ok hins
 obtain ⟨native,hnat,h⟩:=bind_eq_ok h
 obtain ⟨multiplier,hmul,h⟩:=bind_eq_ok h
 rw[requiredNative_ok hnat] at h
 refine readAnswer_kept hreq hins saidNotFound_of_map ?_ h
 intro row status hrow hcon
 obtain ⟨own,hown,rfl⟩:=map_eq_some hrow
 exact ⟨own,multiplier,hown,hcon,hmul,rfl⟩

end BolterTrader.ExactLookup.Gate
