import BolterTrader.ExactLookup.Gate
import BolterTrader.Exchange.Placement
import BolterTrader.Foundations.DecimalText
import Mathlib.Tactic.NormNum

/-! Market buys on the Gate spot market (`gateSpotClient.PlaceOrder` in `gate_rest.go`). -/
namespace BolterTrader.Adapters.Gate
open Foundations Foundations.Fallible Exchange

/-! ## The order that is sent -/

structure SpotPlacement where
 currencyPair:String
 text:String
 side:String
 amount:String
 account:String:="spot"
 type:String
 price:String:=""
 timeInForce:String

structure SpotBook where
 bids:List (List String):=[]
 asks:List (List String):=[]

def spotTimeInForce:LimitPolicy→String
 | .ioc => "ioc"
 | .postOnly => "poc"
 | _ => "gtc"

def gateSpotPlaceOrder (request:PlaceOrderRequest) (native:String):SpotPlacement:=
 let text:=gateClientOrderId request.clientOrderId
 let amount:=request.quantity.toText
 if request.type=.market then
  {currencyPair:=native,text,side:=request.side.text,amount,type:="market",timeInForce:="ioc" }
 else
  { currencyPair:=native,text,side:=request.side.text,amount,type:="limit"
    price:=request.limitPrice.toText,timeInForce:=spotTimeInForce request.limitPolicy}

section
variable (client:ClientMeta) (operation:String)

def validateLevel:List String→Option NativeError
 | price::quantity::_=>
  (gateValidateDecimal client operation "book price" price).or
   (gateValidateDecimal client operation "book quantity" quantity)
 | _=>some (gateMalformed client operation "gate order book level is incomplete")

def gateValidateSpotOrderBook (book:SpotBook):Option NativeError:=
 (book.bids++book.asks).findSome? (validateLevel client operation)

end

def bestAsk (client:ClientMeta) (book:SpotBook):Except NativeError Decimal:=
 match book.asks with
 | (price::_::_)::_=>do
  check (gateValidateSpotOrderBook client "PlaceOrder" book)
  return gateDecimal price
 | _=>.error (gateMalformed client "PlaceOrder" "gate order book best ask is missing")

def placement (client:ClientMeta) (book:Except NativeError SpotBook) (request:PlaceOrderRequest):
  Except NativeError SpotPlacement:=do
 (request.validate .spot).mapError fun err=>withExchangeOperation (.leaf (.exchange err)) "PlaceOrder"
 let native ← ExactLookup.Gate.gateRequiredNativeInstrument client "PlaceOrder" request.instrument
 let order:=gateSpotPlaceOrder request native
 if request.type=.market∧request.side=.buy then do
  let book ← book
  let ask ← bestAsk client book
  return {order with amount:=(request.quantity.mul ask).toText}
 else return order

theorem placement_market_buy {client:ClientMeta} {book:Except NativeError SpotBook} {req:PlaceOrderRequest}
 {sent:SpotPlacement} (hbuy:req.type=.market∧req.side=.buy)
 (h:placement client book req=.ok sent):
 ∃ lvs ask,book=.ok lvs∧bestAsk client lvs=.ok ask∧
  sent.amount=(req.quantity.mul ask).toText:=by
 obtain ⟨nat,-,hsent⟩:=bind_eq_ok (past h)
 rw[if_pos hbuy] at hsent
 obtain ⟨lvs,hleve,hsent⟩:=bind_eq_ok hsent
 obtain ⟨ask,hask,hsent⟩:=bind_eq_ok hsent
 cases hsent
 grind

/-! ## What the venue did with it -/

structure Bought (sent:SpotPlacement) (row:SpotOrder) (spent received price:ℚ):Prop where
 amount_eq:(gateDecimal row.amount).toText=sent.amount
 left_eq:row.left≠"" → (gateDecimal row.left).value=(gateDecimal row.amount).value-spent
 filled_eq:(gateDecimal row.filledAmount).value=received
 amount_pos:0<(gateDecimal row.amount).value
 spent_le:spent≤(gateDecimal row.amount).value
 price_pos:0<price
 spent_eq:spent=price*received

/-- What a truthful report of a market buy says. -/
structure ReportsExecution (ack:OrderAcknowledgement) (order:Order) (amount spent received:ℚ):Prop where
 whole:spent=amount→ ack.state=.immediatelyFilled∧order.quantity.value≤order.filled.value
 part:spent<amount→ ack.state≠.immediatelyFilled∧order.filled.value<order.quantity.value
 inBase:ack.filledQuantity.value=received∧order.filled.value=received

section
variable {sent:SpotPlacement} {row:SpotOrder} {spent received price:ℚ}

theorem Bought.filled (h:Bought sent row spent received price) (ins:Instrument):
 (gateSpotOrder row ins).filled.value=received:=by
 unfold gateSpotOrder
 dsimp only
 split
 next hzero=>
  have hrec:received=0:=by
   rw[←h.filled_eq]
   exact (Decimal.isZero_iff _).mp hzero.1
  have hspe:spent=0:=by rw[h.spent_eq,hrec,mul_zero]
  rw[Decimal.value_sub,h.left_eq hzero.2,hspe,hrec]
  ring
 next=>exact h.filled_eq

theorem Bought.immediatelyFilled_iff (h:Bought sent row spent received price) (client:ClientMeta)
 (ins:Instrument):
 ((Row.spot row).ack client .place .market ins).state=.immediatelyFilled ↔
  (gateDecimal row.amount).value≤received:=by
 have hfil:=h.filled ins
 have hposi:(gateSpotOrder row ins).filled.isPositive=true ↔ 0<received:=by
  rw[Decimal.isPositive_iff,hfil]
 have hless:(gateSpotOrder row ins).filled.lessThan (gateSpotOrder row ins).quantity=true ↔
   received<(gateDecimal row.amount).value:=by
  rw[Decimal.lessThan_iff,hfil]
  rfl
 by_cases hbel:received<(gateDecimal row.amount).value
 · have hnot:¬(gateDecimal row.amount).value≤received:=not_le.mpr hbel
   grind [Row.ack,Row.order,gateAckFromOrder]
 · have hle:(gateDecimal row.amount).value≤received:=not_lt.mp hbel
   have hpos:0<received:=h.amount_pos.trans_le hle
   have hnotl:¬(gateSpotOrder row ins).filled.lessThan (gateSpotOrder row ins).quantity=true:=
    fun hls'=>hbel (hless.mp hls')
   simp[Row.ack,Row.order,gateAckFromOrder,hposi.mpr hpos,hnotl,hle]

theorem place_eq_ack {client:ClientMeta} {req:PlaceOrderRequest} {row:Row} {ack:OrderAcknowledgement}
 (h:row.place client req=(ack,none)):
 ack.state=(row.ack client .place req.type req.instrument).state∧
  ack.filledQuantity=(row.order req.instrument).filled:=by
 unfold Row.place at h
 split at h
 · cases h
 · unfold gateAckValidateForInstrument at h
   split at h
   · cases h
   · have hack:=(Prod.mk.inj h).1
     rw[←hack]
     exact ⟨rfl,rfl⟩

theorem Bought.whole_iff (h:Bought sent row spent received price) (hwh:spent=(gateDecimal row.amount).value):
 (gateDecimal row.amount).value≤received ↔ price≤1:=by
 have hamount:=h.amount_pos
 have hspe:=h.spent_eq
 have hrec:0<received:=by
  rw[←hwh,hspe] at hamount
  exact pos_of_mul_pos_right hamount h.price_pos.le
 rw[←hwh,hspe]
 exact mul_le_iff_le_one_left hrec

end

/-- When the report of a Gate market buy compares amounts of one unit. -/
theorem market_buy_reported_iff (client:ClientMeta) (levels:SpotBook) (ask:Decimal) (request:PlaceOrderRequest)
 (hbuy:request.type=.market∧request.side=.buy) (hask:bestAsk client levels=.ok ask)
 (sent:SpotPlacement) (hsent:placement client (.ok levels) request=.ok sent) (row:SpotOrder)
 (spent received price:ℚ) (hbought:Bought sent row spent received price) (ack:OrderAcknowledgement)
 (hack:(Row.spot row).place client request=(ack,none)):
 ReportsExecution ack (gateSpotOrder row request.instrument) (request.quantity.value*ask.value) spent received ↔
  (spent=request.quantity.value*ask.value∧price≤1)∨
   (spent<request.quantity.value*ask.value∧received<request.quantity.value*ask.value):=by
 obtain ⟨levels',ask',hleve,hask',hamount⟩:=placement_market_buy hbuy hsent
 cases hleve
 rw[hask] at hask'
 cases hask'
 -- the amount of the row is the worth of the quantity at the best ask
 have hwor:(gateDecimal row.amount).value=request.quantity.value*ask.value:=by
  rw[←Decimal.value_mul]
  exact (Decimal.toText_eq_toText_iff _ _).mp (hbought.amount_eq.trans hamount)
 obtain ⟨hst,hq⟩:=place_eq_ack hack
 have hfil:=hbought.filled request.instrument
 have hsta:ack.state=.immediatelyFilled ↔ request.quantity.value*ask.value≤received:=by
  rw[hst,hbuy.1,hbought.immediatelyFilled_iff,hwor]
 have htot:(gateSpotOrder row request.instrument).quantity.value=request.quantity.value*ask.value:=hwor
 constructor
 · intro hrep
   by_cases hwh:spent=request.quantity.value*ask.value
   · have hle:=hsta.mp (hrep.whole hwh).1
     have hpr:=hbought.whole_iff (hwh.trans hwor.symm)
     grind
   · have hpart:spent<request.quantity.value*ask.value:=
      lt_of_le_of_ne (hwor▸hbought.spent_le) hwh
     have hless:=(hrep.part hpart).2
     grind
 · rintro (⟨hwh,hpr⟩ | ⟨hpart,hless⟩)
   · have hle:=(hbought.whole_iff (hwh.trans hwor.symm)).mpr hpr
     rw[hwor] at hle
     refine ⟨fun _=>⟨hsta.mpr hle,?_⟩,fun hlt=>absurd hlt (hwh.ge.not_gt),?_,hfil⟩
     · rw[htot,hfil]
       exact hle
     · rw[hq]
       exact hfil
   · refine ⟨fun hwh=>absurd hwh hpart.ne,fun _=>⟨?_,?_⟩,?_,hfil⟩
     · grind
     · grind
     · rw[hq]
       exact hfil

namespace MarketBuy

def client:ClientMeta:=⟨.gate,.spot⟩

def request:PlaceOrderRequest:=
 { instrument:=
    { identity:=
       { venue:=.gate,product:=.spot,symbol:="BTC-USDT",baseAsset:="BTC",quoteAsset:="USDT"
         nativeSymbol:="BTC_USDT" }
      rules:={priceIncrement:=⟨1,-1⟩,quantityIncrement:=⟨1,-3⟩}}
   clientOrderId:="7",side:=.buy,type:=.market,quantity:=⟨2,-3⟩}

def book:SpotBook:={asks:=[["50000","2"]]}

def sent:SpotPlacement:=
 {currencyPair:="BTC_USDT",text:="t-7",side:="buy",amount:="100",type:="market",timeInForce:="ioc" }

def filled:SpotOrder:=
 { id:="77",text:="t-7",status:="closed",finishAs:="filled",currencyPair:="BTC_USDT",type:="market"
   side:="buy",amount:="100",left:="0",filledAmount:="0.002",avgDealPrice:="50000" }

def half:SpotOrder:={filled with status:="open",finishAs:="open",left:="50",filledAmount:="0.001" }

theorem placement_sent:placement client (.ok book) request=.ok sent:=by rfl

theorem amount_value:(gateDecimal "100").value=100:=by
 rw[show gateDecimal "100" = ⟨100,0⟩ by decide]
 norm_num [Decimal.value]

theorem bought {row:SpotOrder} {spent received:ℚ} (hamount:row.amount="100")
 (hleft:(gateDecimal row.left).value=100-spent) (hfil:(gateDecimal row.filledAmount).value=received)
 (hspe:spent=50000*received) (hle:spent≤100):Bought sent row spent received 50000:=by
 have hv:(gateDecimal row.amount).value=100:=by rw[hamount,amount_value]
 refine ⟨?_,fun _=>by rw[hleft,hv],hfil,?_,?_,by norm_num,hspe⟩
 · rw[hamount]
   decide
 all_goals grind

theorem bought_filled:Bought sent filled 100 (2/1000) 50000:=by
 refine bought rfl ?_ ?_ (by norm_num) le_rfl
 · rw[show gateDecimal filled.left=⟨0,0⟩ by decide]
   norm_num [Decimal.value]
 · rw[show gateDecimal filled.filledAmount=⟨2,-3⟩ by decide]
   norm_num [Decimal.value]

theorem bought_half:Bought sent half 50 (1/1000) 50000:=by
 refine bought rfl ?_ ?_ (by norm_num) (by norm_num)
 · rw[show gateDecimal half.left=⟨50,0⟩ by decide]
   norm_num [Decimal.value]
 · rw[show gateDecimal half.filledAmount=⟨1,-3⟩ by decide]
   norm_num [Decimal.value]

end MarketBuy

theorem market_buy_reported_half :
 ∃ ack,(Row.spot MarketBuy.half).place MarketBuy.client MarketBuy.request=(ack,none)∧
  ReportsExecution ack (gateSpotOrder MarketBuy.half MarketBuy.request.instrument)
   (MarketBuy.request.quantity.value*(gateDecimal "50000").value) 50 (1/1000):=by
 obtain ⟨ack,hack⟩ : ∃ ack,(Row.spot MarketBuy.half).place MarketBuy.client MarketBuy.request=(ack,none):=
  ⟨_,rfl⟩
 have hwor:MarketBuy.request.quantity.value*(gateDecimal "50000").value=100:=by
  rw[show gateDecimal "50000" = ⟨50000,0⟩ by decide]
  norm_num [MarketBuy.request,Decimal.value]
 refine ⟨ack,hack,(market_buy_reported_iff MarketBuy.client MarketBuy.book (gateDecimal "50000") MarketBuy.request
  (by decide) rfl MarketBuy.sent MarketBuy.placement_sent MarketBuy.half 50 (1/1000) 50000
  MarketBuy.bought_half ack hack).mpr (.inr ?_)⟩
 rw[hwor]
 norm_num

theorem market_buy_whole_amount_partially_filled :
 placement MarketBuy.client (.ok MarketBuy.book) MarketBuy.request=.ok MarketBuy.sent∧
  Bought MarketBuy.sent MarketBuy.filled 100 (2/1000) 50000∧(gateDecimal MarketBuy.filled.amount).value=100∧
  ((Row.spot MarketBuy.filled).place MarketBuy.client MarketBuy.request).2=none∧
  ((Row.spot MarketBuy.filled).place MarketBuy.client MarketBuy.request).1.state=.partiallyFilled:=
 ⟨MarketBuy.placement_sent,MarketBuy.bought_filled,MarketBuy.amount_value,by decide,by decide⟩

end BolterTrader.Adapters.Gate
