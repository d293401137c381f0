import BolterTrader.Adapters.BybitBitgetRows
import BolterTrader.Exchange.Placement

/-! The two ways in which the Bybit clients place an order (`bybit_bitget.go`): the REST
request of `bybitPlace` and the WebSocket request of the private backend. -/
namespace BolterTrader.Adapters.BybitPlace
open Foundations Foundations.Fallible Exchange

structure PlaceOrder where
 category:String
 symbol:String
 side:String
 orderType:String
 qty:String
 price:String
 timeInForce:String
 reduceOnly:Bool
 orderLinkId:String
 marketUnit:String:=""

structure Client extends ClientMeta where
 category:String
 settleCoin:String
 spot_iff:category="spot" ↔ product=.spot

/-! ## The fields of a request -/

def bybitSide (side:Side):String:=if side=.sell then "Sell" else "Buy"
def bybitOrderType (type:Exchange.OrderType):String:=if type=.market then "Market" else "Limit"

def tif:LimitPolicy→String
 | .ioc => "IOC"
 | .postOnly => "PostOnly"
 | _ => "GTC"

def priceString (request:PlaceOrderRequest):String:=
 if request.type=.limit then request.limitPrice.toText else ""

section
variable (client:Client)

def accept (request:PlaceOrderRequest):Except NativeError String:=do
 (request.validate client.product).mapError fun err=>withExchangeOperation (.leaf (.exchange err)) "PlaceOrder"
 BybitBitget.symbols client.toClientMeta "PlaceOrder" client.settleCoin request.instrument

def bestAsk (asks:List (List String)):Except NativeError Decimal:=
 match asks with
 | (price::_::_)::_=>do
  refuse (GoText.trimSpace price="") (malformed client.toClientMeta "PlaceOrder" "best ask is required")
  required (malformed client.toClientMeta "PlaceOrder" "invalid decimal value") (Decimal.ofString? price)
 | _=>.error (malformed client.toClientMeta "PlaceOrder" "empty best ask")

def SpotMarketBuy (request:PlaceOrderRequest):Prop:=
 client.product=.spot∧request.type=.market∧request.side=.buy

instance : DecidablePred (SpotMarketBuy client):=fun request=>
 inferInstanceAs (Decidable (client.product=.spot∧request.type=.market∧request.side=.buy))

def bybitOrderQuantity (book:Except NativeError (List (List String))) (request:PlaceOrderRequest):
 Except NativeError (String×String):=
 if SpotMarketBuy client request then do
  let asks ← book
  let ask ← bestAsk client asks
  return ((request.quantity.mul ask).toText,"quoteCoin")
 else .ok (request.quantity.toText,"")

def bybitPlace (book:Except NativeError (List (List String))) (request:PlaceOrderRequest):
  Except NativeError PlaceOrder:=do
 let native ← accept client request
 let (quantity,marketUnit) ← bybitOrderQuantity client book request
 return {
  category:=client.category
  symbol:=native
  side:=bybitSide request.side
  orderType:=bybitOrderType request.type
  qty:=quantity
  price:=priceString request
  timeInForce:=tif request.limitPolicy
  reduceOnly:=request.reduceOnly
  orderLinkId:=request.clientOrderId
  marketUnit}

def webSocketPlace (request:PlaceOrderRequest):Except NativeError PlaceOrder:=do
 let native ← accept client request
 return {
  category:=client.category
  symbol:=native
  side:=bybitSide request.side
  orderType:=bybitOrderType request.type
  qty:=request.quantity.toText
  price:=priceString request
  timeInForce:=tif request.limitPolicy
  reduceOnly:=request.reduceOnly
  orderLinkId:=request.clientOrderId}

end

/-! ## What the venue reads -/

inductive Amount where
 | base (text:String)
 | quote (text:String)
 deriving DecidableEq

structure VenueOrder where
 category:String
 symbol:String
 side:String
 orderType:String
 timeInForce:String
 price:String
 reduceOnly:Bool
 amount:Amount
 deriving DecidableEq

def PlaceOrder.amount (order:PlaceOrder):Amount:=
 if order.category="spot"∧order.orderType="Market"∧order.side="Buy"∧order.marketUnit≠"baseCoin" then
  .quote order.qty
 else .base order.qty

def PlaceOrder.meaning (order:PlaceOrder):VenueOrder:=
 { category:=order.category
   symbol:=order.symbol
   side:=order.side
   orderType:=order.orderType
   timeInForce:=order.timeInForce
   price:=order.price
   reduceOnly:=order.reduceOnly
   amount:=order.amount}

/-! ## The two paths compared -/

section
variable {client:Client} {request:PlaceOrderRequest} {native:String}

theorem quantity_pos_of_accept (h:accept client request=.ok native):0<request.quantity.value:=by
 obtain ⟨u,hval,-⟩:=bind_eq_ok h
 exact PlaceOrderRequest.quantity_pos (mapError_eq_ok hval)

variable {book:Except NativeError (List (List String))}

theorem eq_of_bybitPlace {rest sk:PlaceOrder} (hrest:bybitPlace client book request=.ok rest)
 (hsk:webSocketPlace client request=.ok sk):
 ∃ native qty1 unit,accept client request=.ok native∧
  bybitOrderQuantity client book request=.ok (qty1,unit)∧sk.qty=request.quantity.toText∧
  sk.category=client.category∧sk.side=bybitSide request.side∧
  sk.orderType=bybitOrderType request.type∧sk.marketUnit=""∧
  rest = {sk with qty:=qty1,marketUnit:=unit}:=by
 obtain ⟨native,hnat,hrest⟩:=bind_eq_ok hrest
 obtain ⟨other,hoth,hsk⟩:=bind_eq_ok hsk
 obtain ⟨⟨qty1,unit⟩,hq,hrest⟩:=bind_eq_ok hrest
 have hsame:native=other:=Except.ok.inj (hnat.symm.trans hoth)
 subst hsame
 cases hrest
 cases hsk
 grind

theorem bybitOrderQuantity_of_not (h:¬SpotMarketBuy client request):
 bybitOrderQuantity client book request=.ok (request.quantity.toText,""):=if_neg h

theorem bybitOrderQuantity_of_buy {qty unit:String} (hbuy:SpotMarketBuy client request)
  (h:bybitOrderQuantity client book request=.ok (qty,unit)):
  ∃ asks ask,book=.ok asks∧bestAsk client asks=.ok ask∧qty=(request.quantity.mul ask).toText∧
   unit="quoteCoin" := by
 rw[bybitOrderQuantity,if_pos hbuy] at h
 obtain ⟨asks,hasks,h⟩:=bind_eq_ok h
 obtain ⟨ask,hask,h⟩:=bind_eq_ok h
 cases h
 grind

theorem toText_mul_eq_iff {qty ask:Decimal} (h:0<qty.value):
 (qty.mul ask).toText=qty.toText ↔ ask.value=1:=by
 rw[Decimal.toText_eq_toText_iff,Decimal.value_mul]
 exact mul_eq_left₀ h.ne'

theorem meaning_eq_iff_of_buy {sk:PlaceOrder} (hbuy:SpotMarketBuy client request)
 (hcat:sk.category=client.category) (hside:sk.side=bybitSide request.side)
 (htype:sk.orderType=bybitOrderType request.type) (hunit:sk.marketUnit="") (quantity:String):
 PlaceOrder.meaning {sk with qty:=quantity,marketUnit:="quoteCoin" }=sk.meaning ↔
  quantity=sk.qty:=by
 obtain ⟨hspot,hmk,hbuye⟩:=hbuy
 have hcat:sk.category="spot" := hcat.trans (client.spot_iff.mpr hspot)
 have hside:sk.side="Buy" := by rw[hside,hbuye]; rfl
 have htype:sk.orderType="Market" := by rw[htype,hmk]; rfl
 have hquote:sk.amount=.quote sk.qty:=by
  rw[PlaceOrder.amount,if_pos ⟨hcat,htype,hside,by rw[hunit]; decide⟩]
 have hoth:PlaceOrder.amount {sk with qty:=quantity,marketUnit:="quoteCoin" }=.quote quantity:=by
  grind [PlaceOrder.amount]
 simp only[PlaceOrder.meaning,hquote,hoth,VenueOrder.mk.injEq,Amount.quote.injEq,true_and]

end

/-- When both transports of Bybit send the same order. -/
theorem placements_agree_iff (client:Client) (book:Except NativeError (List (List String)))
 (request:PlaceOrderRequest) (rest socket:PlaceOrder) (hrest:bybitPlace client book request=.ok rest)
 (hsocket:webSocketPlace client request=.ok socket):
 rest.meaning=socket.meaning ↔ ¬SpotMarketBuy client request∨
  ∃ asks ask,book=.ok asks∧bestAsk client asks=.ok ask∧ask.value=1:=by
 obtain ⟨native,quantity,unit,hacc,hq,hqty,hcat,hside,htype,hunit,rfl⟩:=eq_of_bybitPlace hrest hsocket
 by_cases hbuy:SpotMarketBuy client request
 · obtain ⟨asks,ask,rfl,hask,rfl,rfl⟩:=bybitOrderQuantity_of_buy hbuy hq
   grind [meaning_eq_iff_of_buy,toText_mul_eq_iff,quantity_pos_of_accept]
 · rw[bybitOrderQuantity_of_not hbuy] at hq
   cases hq
   rw[←hqty,←hunit]
   grind

namespace Scenario

def spot:Client:={venue:=.bybit,product:=.spot,category:="spot",settleCoin:="",spot_iff:=by decide}

def instrument:Instrument:=
 { identity:=
    { venue:=.bybit,product:=.spot,symbol:="BTC-USDT",baseAsset:="BTC",quoteAsset:="USDT"
      nativeSymbol:="BTCUSDT" }
   rules:={priceIncrement:=⟨1,-1⟩,quantityIncrement:=⟨1,-3⟩}}

def marketBuy:PlaceOrderRequest:={instrument,clientOrderId:="7",side:=.buy,type:=.market,quantity:=⟨1,-2⟩}

def limitSell:PlaceOrderRequest:=
 {marketBuy with side:=.sell,type:=.limit,limitPrice:=⟨50000,0⟩,limitPolicy:=.ioc}

def asks:List (List String):=[["50000","2"]]

end Scenario

theorem placements_agree_limitSell :
 ∃ rest socket,bybitPlace Scenario.spot (.ok Scenario.asks) Scenario.limitSell=.ok rest∧
  webSocketPlace Scenario.spot Scenario.limitSell=.ok socket∧rest.meaning=socket.meaning:=by
 obtain ⟨rest,socket,hrest,hsk⟩ : ∃ rest socket,
  bybitPlace Scenario.spot (.ok Scenario.asks) Scenario.limitSell=.ok rest∧
   webSocketPlace Scenario.spot Scenario.limitSell=.ok socket:=⟨_,_,rfl,rfl⟩
 have hnot:¬SpotMarketBuy Scenario.spot Scenario.limitSell:=by decide
 exact ⟨rest,socket,hrest,hsk,(placements_agree_iff _ _ _ rest socket hrest hsk).mpr (.inl hnot)⟩

theorem market_buy_placements_differ :
 ∃ rest socket,bybitPlace Scenario.spot (.ok Scenario.asks) Scenario.marketBuy=.ok rest∧
  webSocketPlace Scenario.spot Scenario.marketBuy=.ok socket∧rest.amount=.quote "500"∧
  socket.amount=.quote "0.01"∧rest.meaning≠socket.meaning:=by
 exact ⟨_,_,rfl,rfl,by decide,by decide,by decide⟩

end BolterTrader.Adapters.BybitPlace
