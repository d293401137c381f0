import BolterTrader.ExactLookup.Lighter
import BolterTrader.Exchange.Placement
import BolterTrader.Foundations.DecimalText
import BolterTrader.Foundations.DecimalWhole

/-! Prices and sizes in the ticks of a Lighter market (`lighter_rest.go`): where the scales of
a market come from, the ticks of a placement and the protection price of a market order. -/
namespace BolterTrader.Adapters.Lighter
open Foundations Foundations.Fallible Exchange

/-! ## Scales -/

structure Market where
 instrument:Instrument
 marketId:Int
 priceScale:Decimal
 sizeScale:Decimal
 quoteScale:Decimal

def Market.of (instrument:Instrument) (marketId:Int):Market where
 instrument:=instrument
 marketId:=marketId
 priceScale:=.ofInt (instrument.encoding.priceScale.getD 0)
 sizeScale:=.ofInt (instrument.encoding.quantityScale.getD 0)
 quoteScale:=.ofInt (instrument.encoding.quoteScale.getD 0)

def scaledMarket (instrument:Instrument) (marketId:Int):Except String Market:=do
 ExactLookup.Lighter.lighterScalesFromInstrument instrument
 return .of instrument marketId

def lighterMetasFromSnapshot (product:Product) (instruments:List Instrument):Except String (List Market):=do
 let metas ← ExactLookup.Lighter.lighterMetasFromSnapshot product [] instruments
 metas.mapM fun own=>scaledMarket own.instrument own.marketId

structure OrderBookDetail where
 symbol:String
 marketId:Int64
 marketType:String
 priceDecimals:UInt8
 supportedPriceDecimals:UInt8
 sizeDecimals:UInt8
 supportedSizeDecimals:UInt8
 supportedQuoteDecimals:UInt8
 minBaseAmount:String
 minQuoteAmount:String

structure OrderBookDetailsResponse where
 code:Int:=200
 orderBookDetails:List (Option OrderBookDetail):=[]
 spotOrderBookDetails:List (Option OrderBookDetail):=[]

def lighterMetaDecimals (kind:String) (main fallback:UInt8):Except String UInt8:=do
 let value:=if main=0 then fallback else main
 refuse (18<value) ("invalid " ++ kind ++ " decimals: decimals exceed safe bound")
 return value

def lighterEncodingScale (decimals:UInt8):Int:=(Nat.iterate (· * 10) decimals.toNat (1:Int64)).toInt

def lighterNonNegative? (raw:String):Option Decimal:=
 (if GoText.trimSpace raw="" then some .zero else Decimal.ofString? raw).filter fun value=>!value.isNegative

def lighterAssets (symbol:String) (product:Product):String×String:=
 let pair (separator:Char):Option (String×String):=
  match GoText.split separator symbol with
  | [base,quote]=>if base≠""∧quote≠"" then some (base,quote) else none
  | _=>none
 if product=.spot then ((pair '-').or (pair '/')).getD (symbol,"USDC") else (symbol,"USDC")

def builtMarket (product:Product) (marketType:String) (row:OrderBookDetail):Except String Market:=do
 refuse (row.marketType≠marketType) "mixed market_type in metadata slice"
 refuse (GoText.trimSpace row.symbol=""∨row.marketId<0) "invalid market identity"
 let priceDecimals ← lighterMetaDecimals "price" row.priceDecimals row.supportedPriceDecimals
 let sizeDecimals ← lighterMetaDecimals "size" row.sizeDecimals row.supportedSizeDecimals
 let quoteDecimals ← lighterMetaDecimals "quote" row.supportedQuoteDecimals 0
 let minQuantity ← required "invalid min base amount" (lighterNonNegative? row.minBaseAmount)
 let minNotional ← (if GoText.trimSpace row.minQuoteAmount="" then .ok none else do
  let value ← required "invalid min quote amount" (lighterNonNegative? row.minQuoteAmount)
  return if value.isPositive then some value else none : Except String OptionalDecimal)
 let (base,quote):=lighterAssets row.symbol product
 scaledMarket {
  identity:={
   venue:=.lighter,product,symbol:=base ++ "-" ++ quote,baseAsset:=base,quoteAsset:=quote
   settleAsset:=if product=.perp then quote else ""
   nativeSymbol:=row.symbol,nativeId:=GoText.itoa row.marketId.toInt}
  rules:={
   priceIncrement:=⟨1,-priceDecimals.toNat⟩,quantityIncrement:=⟨1,-sizeDecimals.toNat⟩
   minQuantity,minNotional}
  encoding:={
   contractMultiplier:=some (.ofInt 1)
   priceScale:=some (lighterEncodingScale priceDecimals)
   quantityScale:=some (lighterEncodingScale sizeDecimals)
   quoteScale:=some (lighterEncodingScale quoteDecimals)}
  metadata:={
   marketFamily:=if product=.perp then .venuePerpetual else .spot
   assetClass:=.unknown}} row.marketId.toInt

def buildMarkets (product:Product) (marketType:String) (seen:List Market):
  List (Option OrderBookDetail)→Except String (List Market)
 | []=>.ok []
 | none::_=>.error "nil market detail"
 | some row::rest=>do
  let market ← builtMarket product marketType row
  refuse (seen.any fun other=>other.instrument.identity.symbol=market.instrument.identity.symbol)
   "duplicate market symbol"
  refuse (seen.any fun other=>other.marketId=market.marketId) "duplicate market id"
  let markets ← buildMarkets product marketType (market::seen) rest
  return market::markets

def lighterBuildMetas (response:OrderBookDetailsResponse) (product:Product) (marketType:String):
  Except String (List Market):=do
 refuse (response.code≠200) "metadata response code is not 200"
 buildMarkets product marketType []
  (if marketType="perp" then response.orderBookDetails else response.spotOrderBookDetails)

theorem scaledMarket_eq {instrument:Instrument} {id:Int} {market:Market}
 (h:scaledMarket instrument id=.ok market):market=.of instrument id:=by
 cases past h
 rfl

def Market.Native (market:Market):Prop:=
 market=.of market.instrument market.marketId∧
  Decimal.parseInt64? market.instrument.identity.nativeId=some market.marketId

theorem builtMarket_native {product:Product} {marketType:String} {row:OrderBookDetail} {market:Market}
 (h:builtMarket product marketType row=.ok market):market.Native:=by
 obtain ⟨_,-,h⟩:=bind_eq_ok (past (past h))
 obtain ⟨_,-,h⟩:=bind_eq_ok h
 obtain ⟨_,-,h⟩:=bind_eq_ok h
 obtain ⟨_,-,h⟩:=bind_eq_ok h
 obtain ⟨_,-,h⟩:=bind_eq_ok h
 rw[scaledMarket_eq h]
 refine ⟨rfl,Decimal.parseInt64?_toString (decide_eq_true ⟨?_,?_⟩)⟩
 · exact Int64.le_toInt row.marketId
 · exact Int.le_of_lt_add_one (Int64.toInt_lt row.marketId)

theorem buildMarkets_eq_ok {product:Product} {marketType:String} {seen built:List Market}
 {rows:List (Option OrderBookDetail)} (h:buildMarkets product marketType seen rows=.ok built):
 (∀ b∈built,b.Native∧∀ s∈seen,s.marketId≠b.marketId)∧(built.map Market.marketId).Nodup:=by
 induction rows generalizing seen built with
 | nil=>
  cases h
  grind
 | cons row rest ih=>
  cases row with
  | none=>cases h
  | some row=>
   obtain ⟨market,hmarket,h⟩:=bind_eq_ok h
   obtain ⟨_,hid,h⟩:=bind_eq_ok (past h)
   obtain ⟨markets,hrest,h⟩:=bind_eq_ok h
   cases h
   obtain ⟨heach,hnodup⟩:=ih hrest
   have hfresh:∀ s∈seen,s.marketId≠market.marketId:=by simpa using refuse_eq_ok hid
   refine ⟨List.forall_mem_cons.mpr ⟨⟨builtMarket_native hmarket,hfresh⟩,fun b hb=>?_⟩,?_⟩
   all_goals grind

theorem mem_of_metasFromSnapshot {product:Product} {seen metas:List ExactLookup.Lighter.MarketMeta}
 {instruments:List Instrument}
 (h:ExactLookup.Lighter.lighterMetasFromSnapshot product seen instruments=.ok metas):
 ∀ own∈metas,own.instrument∈instruments:=by
 induction instruments generalizing seen metas with
 | nil=>
  cases h
  exact List.forall_mem_nil _
 | cons instrument rest ih=>
  obtain ⟨own,hown,h⟩:=bind_eq_ok h
  obtain ⟨others,hrest,h⟩:=bind_eq_ok (past (past h))
  cases h
  have hsame:own.instrument=instrument:=by
   have hmeta:=past hown
   split at hmeta
   · cases hmeta
   · cases past (past hmeta)
     rfl
  grind

theorem scales_agree {response:OrderBookDetailsResponse} {product:Product} {marketType:String}
 {built stored:List Market} {snapshot:List Instrument}
 (hbuilt:lighterBuildMetas response product marketType=.ok built)
 (hsnapshot:∀ instrument∈snapshot,∃ b∈built,b.instrument=instrument)
 (hstored:lighterMetasFromSnapshot product snapshot=.ok stored):
 ∀ s∈stored,∀ b∈built,s.marketId=b.marketId→ s=b:=by
 intro s hs b hb hid
 obtain ⟨metas,hmetas,hstored⟩:=bind_eq_ok hstored
 obtain ⟨own,hown,hscaled⟩:=exists_of_mem_mapM hstored hs
 obtain ⟨b',hb',hinst⟩:=hsnapshot own.instrument (mem_of_metasFromSnapshot hmetas own hown)
 obtain ⟨heach,hnodup⟩:=buildMarkets_eq_ok (past hbuilt)
 obtain ⟨heq,hnative⟩:=(heach b' hb').1
 rw[hinst] at heq hnative
 have hsame:=Option.some.inj (hnative.symm.trans own.isNativeId)
 grind [scaledMarket_eq,List.inj_on_of_nodup_map]

/-! ## The ticks of a placement -/

def maxUint32:Decimal:=.ofInt 4294967295
def largestInt64:Decimal:=.ofInt 9223372036854775807
def uint32 (n:Int64):UInt32:=UInt32.ofNat (n.toInt % 4294967296).toNat

def lighterScaleUint32 (value scale:Decimal):Except String UInt32:=do
 let scaled:=value.mul scale
 refuse (scaled.equal scaled.truncate=false∨scaled.isNegative=true∨maxUint32.lessThan scaled=true)
  "not an exact uint32 tick"
 return uint32 scaled.intPart

def lighterScaleInt64 (value scale:Decimal):Except String Int64:=do
 let scaled:=value.mul scale
 refuse (scaled.equal scaled.truncate=false∨scaled.isPositive=false∨largestInt64.lessThan scaled=true)
  "not an exact positive int64 tick"
 return scaled.intPart

def lighterValidatePlace (product:Product) (market:Market) (request:PlaceOrderRequest):
  Except String (UInt32×Int64×Int):=do
 (request.validate product).mapError fun _ => "invalid normalized order request"
 let clientId ← required "client order id must be a positive uint48 decimal string"
  ((Decimal.parseInt64? request.clientOrderId).filter fun id=>
   0< id && id≤281474976710655 && GoText.itoa id == request.clientOrderId)
 let price ← (if request.type=.limit then
   (lighterScaleUint32 request.limitPrice market.priceScale).mapError
    ("price must align to Lighter price tick: " ++ ·)
  else .ok 0 : Except String UInt32)
 let size ← (lighterScaleInt64 request.quantity market.sizeScale).mapError
  ("quantity must align to Lighter size tick: " ++ ·)
 refuse (request.quantity.lessThan market.instrument.rules.minQuantity=true) "quantity is below minimum"
 refuse (request.type=.limit∧(market.instrument.rules.minNotional.any fun least=>
  (request.quantity.mul request.limitPrice).lessThan least)=true) "notional is below minimum"
 return (price,size,clientId)

theorem uint32_eq {n:ℤ} (hlow:0≤n) (hhigh:n≤4294967295):((uint32 (Int64.ofInt n)).toNat : ℤ)=n:=by
 grind [uint32,Int64.toInt_ofInt_of_le,UInt32.toNat_ofNat_of_lt']

theorem lighterScaleUint32_eq {value scale:Decimal} {ticks:UInt32} (h:lighterScaleUint32 value scale=.ok ticks):
 (ticks.toNat : ℚ)=value.value*scale.value:=by
 obtain ⟨_,hok,h⟩:=bind_eq_ok h
 obtain ⟨hwhole,hneg,hbig⟩:=not_or.mp (refuse_eq_ok hok) |>.imp_right not_or.mp
 obtain ⟨n,hn⟩:=(Decimal.equal_truncate_iff _).mp (Bool.not_eq_false _▸hwhole)
 cases h
 rw[Decimal.isNegative_iff,not_lt,hn] at hneg
 rw[Decimal.lessThan_iff,not_lt,hn,maxUint32,Decimal.value_ofInt] at hbig
 rw[Decimal.intPart_eq hn,←Decimal.value_mul,hn]
 exact_mod_cast uint32_eq (by exact_mod_cast hneg) (by exact_mod_cast hbig)

theorem lighterScaleInt64_eq {value scale:Decimal} {ticks:Int64} (h:lighterScaleInt64 value scale=.ok ticks):
 (ticks.toInt : ℚ)=value.value*scale.value∧0<ticks.toInt:=by
 obtain ⟨_,hok,h⟩:=bind_eq_ok h
 obtain ⟨hwhole,hpos,hbig⟩:=not_or.mp (refuse_eq_ok hok) |>.imp_right not_or.mp
 obtain ⟨n,hn⟩:=(Decimal.equal_truncate_iff _).mp (Bool.not_eq_false _▸hwhole)
 cases h
 rw[Bool.not_eq_false,Decimal.isPositive_iff,hn] at hpos
 rw[Decimal.lessThan_iff,not_lt,hn,largestInt64,Decimal.value_ofInt] at hbig
 have hlow:0<n:=by exact_mod_cast hpos
 have hhigh:n≤9223372036854775807:=by exact_mod_cast hbig
 rw[Decimal.intPart_eq hn,←Decimal.value_mul,hn,Int64.toInt_ofInt_of_le (by omega) (by omega)]
 exact ⟨rfl,hlow⟩

theorem limitPrice_zero {product:Product} {request:PlaceOrderRequest} {u:Unit}
 (h:request.validate product=.ok u) (htype:request.type≠.limit):request.limitPrice.value=0:=by
 have htyped:request.validateType=.ok u:=past (past (past (past (past (past (past (past (past (past h)))))))))
 unfold PlaceOrderRequest.validateType at htyped
 split at htyped
 · obtain ⟨_,hzero,-⟩:=bind_eq_ok htyped
   exact (Decimal.isZero_iff _).mp (Bool.not_eq_false _▸refuse_eq_ok hzero)
 · contradiction
 · cases htyped

theorem lighterValidatePlace_eq {product:Product} {market:Market} {request:PlaceOrderRequest} {price:UInt32}
 {size:Int64} {id:Int} (h:lighterValidatePlace product market request=.ok (price,size,id)):
 (price.toNat : ℚ)=request.limitPrice.value*market.priceScale.value∧
  (size.toInt : ℚ)=request.quantity.value*market.sizeScale.value∧0<size.toInt:=by
 obtain ⟨_,hvalid,h⟩:=bind_eq_ok h
 obtain ⟨_,-,h⟩:=bind_eq_ok h
 obtain ⟨ticks,hticks,h⟩:=bind_eq_ok h
 obtain ⟨count,hcount,h⟩:=bind_eq_ok h
 cases past (past h)
 refine ⟨?_,lighterScaleInt64_eq (mapError_eq_ok hcount)⟩
 split at hticks
 next=>exact lighterScaleUint32_eq (mapError_eq_ok hticks)
 next htype=>
  cases hticks
  rw[limitPrice_zero (mapError_eq_ok hvalid) htype,zero_mul]
  rfl

/-- Ticks are exact, other values are refused, and stored scales are the built ones. -/
theorem lighter_ticks_exact (product:Product):
 (∀ market request,
  (∀ price size id,lighterValidatePlace product market request=.ok (price,size,id) →
   (price.toNat : ℚ)=request.limitPrice.value*market.priceScale.value∧
    (size.toInt : ℚ)=request.quantity.value*market.sizeScale.value∧0<size.toInt)∧
  (∀ off : ℚ,off=request.limitPrice.value*market.priceScale.value∨
    off=request.quantity.value*market.sizeScale.value →
   (∀ n : ℤ,off≠n)→ ∃ err,lighterValidatePlace product market request=.error err)∧
  (2^32≤request.limitPrice.value*market.priceScale.value∨
    2^63≤request.quantity.value*market.sizeScale.value →
   ∃ err,lighterValidatePlace product market request=.error err))∧
 ∀ response marketType built snapshot stored,lighterBuildMetas response product marketType=.ok built →
  (∀ instrument∈snapshot,∃ b∈built,b.instrument=instrument) →
  lighterMetasFromSnapshot product snapshot=.ok stored →
  ∀ s∈stored,∀ b∈built,s.marketId=b.marketId →
   s.priceScale=b.priceScale∧s.sizeScale=b.sizeScale∧s.quoteScale=b.quoteScale:=by
 have hrefused:∀ {market:Market} {request:PlaceOrderRequest},
   (∀ price size id,lighterValidatePlace product market request≠.ok (price,size,id)) →
    ∃ err,lighterValidatePlace product market request=.error err:=by
  intro market request hnot
  cases h:lighterValidatePlace product market request with
  | error err=>exact ⟨err,rfl⟩
  | ok sent=>exact absurd h (hnot _ _ _)
 refine ⟨fun market request=>⟨fun _ _ _=>lighterValidatePlace_eq,fun off hoff hwhole=>?_,fun hbig=>?_⟩,?_⟩
 · refine hrefused fun price size id h=>?_
   obtain ⟨hprice,hsize,-⟩:=lighterValidatePlace_eq h
   rcases hoff with rfl | rfl
   · exact hwhole price.toNat (hprice.symm.trans (by simp))
   · grind
 · refine hrefused fun price size id h=>?_
   obtain ⟨hprice,hsize,-⟩:=lighterValidatePlace_eq h
   rw[←hprice,←hsize] at hbig
   have hp:=UInt32.toNat_lt price
   have hs:=Int64.toInt_lt size
   rcases hbig with hbig | hbig
   · exact absurd (by exact_mod_cast hbig : 2^32≤price.toNat) (by omega)
   · exact absurd (by exact_mod_cast hbig : 2^63≤ size.toInt) (by omega)
 · intro response marketType built snapshot stored hbuilt hsnapshot hstored s hs b hb hid
   grind [scales_agree]

def etherDetail : OrderBookDetail where
  symbol := "ETH"
  marketId := 0
  marketType := "perp"
  priceDecimals := 2
  supportedPriceDecimals := 2
  sizeDecimals := 4
  supportedSizeDecimals := 4
  supportedQuoteDecimals := 6
  minBaseAmount := "0.0050"
  minQuoteAmount := "10"

def etherOrder (instrument : Instrument) : PlaceOrderRequest where
  instrument := instrument
  clientOrderId := "7"
  side := .buy
  type := .limit
  quantity := ⟨5, -1⟩
  limitPrice := ⟨300025, -2⟩
  limitPolicy := .resting

/-- One market is built, stored and read back, and a limit order for it is accepted. -/
theorem ether_ticks_exact : ∃ built stored sent,
    lighterBuildMetas {orderBookDetails := [some etherDetail]} .perp "perp" = .ok [built] ∧
    lighterMetasFromSnapshot .perp [built.instrument] = .ok [stored] ∧
    lighterValidatePlace .perp stored (etherOrder stored.instrument) = .ok sent ∧
    stored.priceScale = built.priceScale ∧
    (sent.1.toNat : ℚ) = (etherOrder stored.instrument).limitPrice.value * stored.priceScale.value := by
  obtain ⟨built, stored, sent, hbuilt, hstored, hsent, hid⟩ : ∃ built stored sent,
      lighterBuildMetas {orderBookDetails := [some etherDetail]} .perp "perp" = .ok [built] ∧
      lighterMetasFromSnapshot .perp [built.instrument] = .ok [stored] ∧
      lighterValidatePlace .perp stored (etherOrder stored.instrument) = .ok sent ∧
      stored.marketId = built.marketId := ⟨_, _, _, by rfl, by rfl, by rfl, rfl⟩
  obtain ⟨hticks, hscales⟩ := lighter_ticks_exact .perp
  have hscale := hscales _ _ _ _ _ hbuilt (by simp) hstored stored (by simp) built (by simp) hid
  exact ⟨built, stored, sent, hbuilt, hstored, hsent, hscale.1, ((hticks _ _).1 _ _ _ hsent).1⟩

/-! ## The protection price of a market order -/

structure OrderBookOrders where
 code:Int:=200
 asks:List String:=[]
 bids:List String:=[]

def lighterPositive? (raw:String):Option Decimal:=(lighterNonNegative? raw).filter (·.isPositive)
def lighterMarketProtectionBps:Int:=50

def lighterMarketProtectionPrice (product:Product) (market:Market) (side:Side)
  (answer:Except NativeError OrderBookOrders):Except NativeError UInt32:=do
 let malformed:=lighterMalformed product "PlaceOrder"
 let book ← answer.mapError fun err=>(lighterNormalizeErr product "PlaceOrder" err).getD err
 refuse (book.code≠200) (malformed "order book response code is not 200")
 let raw ← (match side with
  | .buy=>required (malformed "market buy requires a best ask") book.asks.head?
  | .sell=>required (malformed "market sell requires a best bid") book.bids.head?
  | .unset=>.error (failure product "PlaceOrder" .invalidRequest "" "side must be buy or sell"):
   Except NativeError String)
 let reference ← required (malformed "invalid market protection reference price") (lighterPositive? raw)
 let bps:=Decimal.ofInt 10000
 let factor:=if side=.buy then bps.add (.ofInt lighterMarketProtectionBps)
  else bps.sub (.ofInt lighterMarketProtectionBps)
 let scaled:=((reference.mul factor).div bps).mul market.priceScale
 let scaled:=if side=.buy then scaled.ceil else scaled.floor
 refuse (scaled.isPositive=false∨maxUint32.lessThan scaled=true) (malformed "invalid market protection price")
 return uint32 scaled.intPart

def protectedTicks (side:Side) (ticks:ℚ):ℤ:=
 if side=.buy then ⌈ticks*10050/10000⌉ else ⌊ticks*9950/10000⌋

def OrderBookOrders.best (book:OrderBookOrders) (side:Side):Option String:=
 if side=.buy then book.asks.head? else book.bids.head?

theorem protected_side {side:Side} {ticks:ℚ} (hpos:0<ticks):
 (side=.buy→ ticks≤protectedTicks side ticks)∧(side≠.buy→(protectedTicks side ticks : ℚ)≤ticks):=by
 unfold protectedTicks
 constructor
 · intro hbuy
   rw[if_pos hbuy]
   exact le_trans (by linarith) (Int.le_ceil _)
 · intro hsell
   rw[if_neg hsell]
   exact (Int.floor_le _).trans (by linarith)

theorem checked_ticks {ε:Type} {scaled:Decimal} {want:ℤ} (h:scaled.value=want) (err:ε):
 (refuse (scaled.isPositive=false∨maxUint32.lessThan scaled=true) err >>=
   fun _=>pure (uint32 scaled.intPart):Except ε UInt32) =
  if 1≤want∧want≤4294967295 then .ok (UInt32.ofNat want.toNat) else .error err:=by
 have hpos:scaled.isPositive=false ↔ ¬1≤want:=by
  rw[←Bool.not_eq_true,Decimal.isPositive_iff,h,Int.cast_pos]
  rfl
 have hbig:maxUint32.lessThan scaled=true ↔ ¬want≤4294967295:=by
  rw[Decimal.lessThan_iff,h,maxUint32,Decimal.value_ofInt,Int.cast_lt,not_le]
 by_cases hin:1≤want∧want≤4294967295
 · rw[if_pos hin,refuse_bind (by rw[hpos,hbig]; tauto),Decimal.intPart_eq h,uint32,
    Int64.toInt_ofInt_of_le (by omega) (by omega),Int.emod_eq_of_lt (by omega) (by omega)]
   rfl
 · rw[if_neg hin,refuse,if_pos (by rw[hpos,hbig]; tauto)]
   rfl

theorem ok_bind {ε α β:Type} (a:α) (f:α→Except ε β):(Except.ok a >>= f)=f a:=rfl

/-- The protection price of a market order, in ticks. -/
theorem protection_price_exact {product:Product} {market:Market} {side:Side} {book:OrderBookOrders} {raw:String}
 {best:Decimal} {k:ℕ} (hk:k≤12) (hscale:market.priceScale.value=10^k) (hside:side≠.unset)
 (hcode:book.code=200) (hraw:book.best side=some raw) (hbest:lighterPositive? raw=some best)
 (hgrid:∃ n : ℤ,best.value*10^k=n):
 let want:=protectedTicks side (best.value*10^k)
 lighterMarketProtectionPrice product market side (.ok book) =
   (if 1≤want∧want≤4294967295 then .ok (UInt32.ofNat want.toNat)
    else .error (lighterMalformed product "PlaceOrder" "invalid market protection price"))∧
  (side=.buy→ best.value*10^k≤want)∧(side=.sell→(want:ℚ)≤best.value*10^k):=by
 intro want
 obtain ⟨n,hn⟩:=hgrid
 have hpos:0<best.value:=(Decimal.isPositive_iff _).mp (Option.filter_eq_some_iff.mp hbest).2
 obtain ⟨hover,hunder⟩:=@protected_side side _ (show 0<best.value*10^k by positivity)
 refine ⟨?_,hover,fun hs=>hunder (by rw[hs]; decide)⟩
 -- a price on the grid has at most twelve places, and so its quotient at most sixteen
 have hquot:∀ c:ℤ,0≤c→
   (((best.mul (.ofInt c)).div (.ofInt 10000)).mul market.priceScale).value=best.value*10^k*c/10000:=by
  intro c hc
  have hten:(10:ℚ)^12=10^k*10^(12-k):=by rw[←pow_add,Nat.add_sub_cancel' hk]
  have hc':(0:ℚ)≤c:=by exact_mod_cast hc
  have hwhole:best.value*c/(10000:ℤ)*10^16=(n*c*10^(12-k):ℤ):=by
   grind
  rw[Decimal.value_mul,hscale,Decimal.value_div,Decimal.value_mul,Decimal.value_ofInt,Decimal.value_ofInt,
   Decimal.round16_of_whole hwhole]
  · push_cast
    ring
  · rw[Decimal.value_mul,Decimal.value_ofInt]
    positivity
  · norm_num
 obtain ⟨code,asks,bids⟩:=book
 cases hcode
 cases side with
 | unset=>exact absurd rfl hside
 | buy=>
  cases asks with
  | nil=>cases hraw
  | cons first rest=>
   cases hraw
   rw[lighterMarketProtectionPrice,Except.mapError,ok_bind,refuse_bind fun h=>h rfl]
   simp only[List.head?_cons,required,ok_bind,hbest]
   have hscaled:=hquot 10050 (by decide)
   rw[Int.cast_ofNat] at hscaled
   exact checked_ticks ((Decimal.value_ceil _).trans (congrArg (fun x:ℚ=>(⌈x⌉ : ℚ)) hscaled)) _
 | sell=>
  cases bids with
  | nil=>cases hraw
  | cons first rest=>
   cases hraw
   rw[lighterMarketProtectionPrice,Except.mapError,ok_bind,refuse_bind fun h=>h rfl]
   simp only[List.head?_cons,required,ok_bind,hbest]
   have hscaled:=hquot 9950 (by decide)
   rw[Int.cast_ofNat] at hscaled
   exact checked_ticks ((Decimal.value_floor _).trans (congrArg (fun x:ℚ=>(⌊x⌋ : ℚ)) hscaled)) _

namespace Ticks

def market:Market:=.of {
 identity:={
  venue:=.lighter,product:=.perp,symbol:="BTC-USDC",baseAsset:="BTC",quoteAsset:="USDC"
  settleAsset:="USDC",nativeSymbol:="BTC",nativeId:="1" }
 encoding:={priceScale:=some 10,quantityScale:=some 100000,quoteScale:=some 1000000}} 1

theorem sale_protected:lighterMarketProtectionPrice .perp market .sell (.ok {bids:=["50000.1"]})=.ok 497500:=by
 have h:=(@protection_price_exact .perp market .sell {bids:=["50000.1"]} "50000.1" ⟨500001,-1⟩ 1 (by decide)
  (by norm_num [market,Market.of,Decimal.value,Decimal.ofInt]) (by decide) rfl rfl rfl
  ⟨500001,by norm_num [Decimal.value]⟩).1
 have hwant:protectedTicks .sell ((⟨500001,-1⟩ : Decimal).value*10^1)=497500:=by
  rw[protectedTicks,if_neg (by decide)]
  norm_num [Decimal.value,Int.floor_eq_iff]
 rw[hwant] at h
 exact h

end Ticks

end BolterTrader.Adapters.Lighter
