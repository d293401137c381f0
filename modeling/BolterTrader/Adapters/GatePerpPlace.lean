import BolterTrader.Adapters.GateMarketBuy
import BolterTrader.Foundations.DecimalWhole

/-! Orders on the Gate perpetual market (`gatePerpClient.PlaceOrder` in `gate_rest.go`). -/
namespace BolterTrader.Adapters.Gate
open Foundations Foundations.Fallible Exchange

structure FuturesPlacement where
 contract:String
 text:String
 size:Int64
 reduceOnly:Bool
 price:String
 tif:String

def gateFuturesPlaceOrder (request:PlaceOrderRequest) (native:String) (contracts:Int64):FuturesPlacement:=
 let text:=gateClientOrderId request.clientOrderId
 let size:=if request.side=.sell then -contracts else contracts
 if request.type=.market then
  {contract:=native,text,size,reduceOnly:=request.reduceOnly,price:="0",tif:="ioc" }
 else
  { contract:=native,text,size,reduceOnly:=request.reduceOnly
    price:=request.limitPrice.toText,tif:=spotTimeInForce request.limitPolicy}

def futuresPlacement (client:ClientMeta) (request:PlaceOrderRequest):Except NativeError FuturesPlacement:=do
 (request.validate .perp).mapError fun err=>withExchangeOperation (.leaf (.exchange err)) "PlaceOrder"
 let native ← ExactLookup.Gate.gateRequiredNativeInstrument client "PlaceOrder" request.instrument
 let multiplier ← gateContractMultiplier ExactLookup.Gate.perpClient "PlaceOrder" request.instrument
 let contracts:=request.quantity.div multiplier
 refuse (contracts.isPositive=false∨contracts.equal contracts.truncate=false)
  (client.catalogInvalidRequest "PlaceOrder" "gate futures quantity must align with the contract multiplier")
 return gateFuturesPlaceOrder request native contracts.intPart

def SizedExactly (request:PlaceOrderRequest) (multiplier:Decimal) (sent:FuturesPlacement):Prop:=
 |(sent.size.toInt:ℚ)| * multiplier.value=request.quantity.value∧
  (request.side=.buy→0<sent.size.toInt)∧(request.side=.sell→ sent.size.toInt<0)

theorem futuresPlacement_eq_ok {client:ClientMeta} {request:PlaceOrderRequest} {sent:FuturesPlacement}
 (h:futuresPlacement client request=.ok sent):
 ∃ multiplier,gateContractMultiplier ExactLookup.Gate.perpClient "PlaceOrder" request.instrument=.ok multiplier∧
  0<request.quantity.value∧request.side≠.unset∧0< multiplier.value∧
  ∃ n : ℤ,0<n∧Decimal.round16 (request.quantity.value/multiplier.value)=n∧
   sent.size=if request.side=.sell then -Int64.ofInt n else Int64.ofInt n:=by
 obtain ⟨u,hv,h⟩:=bind_eq_ok h
 have hvalid:=mapError_eq_ok hv
 have hq:=PlaceOrderRequest.quantity_pos hvalid
 obtain ⟨_,hside,-⟩:=bind_eq_ok (past (past (past hvalid)))
 obtain ⟨native,-,h⟩:=bind_eq_ok h
 obtain ⟨multiplier,hmult,h⟩:=bind_eq_ok h
 have hpos:0< multiplier.value:=
  (Decimal.isPositive_iff _).mp (Option.filter_eq_some_iff.mp (required_eq_ok (past hmult))).2
 obtain ⟨_,hcount,h⟩:=bind_eq_ok h
 obtain ⟨hposi,hwhole⟩:=not_or.mp (refuse_eq_ok hcount)
 rw[Bool.not_eq_false] at hposi hwhole
 obtain ⟨n,hn⟩:=(Decimal.equal_truncate_iff _).mp hwhole
 have hn':=(Decimal.isPositive_iff _).mp hposi
 rw[hn] at hn'
 refine ⟨multiplier,hmult,hq,refuse_eq_ok hside,hpos,n,by exact_mod_cast hn',?_,?_⟩
 · rw[←Decimal.value_div hq.le hpos,hn]
 · cases h
   rw[Decimal.intPart_eq hn,gateFuturesPlaceOrder]
   split<;>rfl

theorem toInt_neg_ofInt {n:ℤ} (hn:0<n) (hle:n≤2^63):(-Int64.ofInt n).toInt = -n:=by
 rcases hle.lt_or_eq with hlt | rfl
 all_goals grind [Int64.toInt_neg,Int64.toInt_ofInt_of_le,Int.bmod_eq_of_le]

/-- When the contracts sent to Gate stand for the quantity asked for. -/
theorem gate_size_exact_iff {client:ClientMeta} {request:PlaceOrderRequest} {sent:FuturesPlacement}
 {multiplier:Decimal} (hsent:futuresPlacement client request=.ok sent)
 (hmultiplier:gateContractMultiplier ExactLookup.Gate.perpClient "PlaceOrder" request.instrument=.ok multiplier):
 SizedExactly request multiplier sent ↔
  ∃ n : ℕ,request.quantity.value=n*multiplier.value∧(n<2^63∨request.side=.sell∧n=2^63):=by
 obtain ⟨_,hmult,hq,hside,hpos,k,hk,hround,hsize⟩:=futuresPlacement_eq_ok hsent
 cases hmultiplier.symm.trans hmult
 constructor
 · rintro ⟨hexact,hbuy,-⟩
   refine ⟨sent.size.toInt.natAbs,?_,?_⟩
   · rw[←hexact,Nat.cast_natAbs,Int.cast_abs]
   · have hlow:=Int64.le_toInt sent.size
     have hhigh:=Int64.toInt_lt sent.size
     by_cases hmin:sent.size.toInt=-2^63
     · refine .inr ⟨?_,by rw[hmin]; rfl⟩
       cases hs:request.side with
       | unset=>exact absurd hs hside
       | buy=>exact absurd (hbuy hs) (by omega)
       | sell=>rfl
     · exact .inl (by omega)
 · rintro ⟨n,hexact,hfits⟩
   have hkn:k=n:=by
    have hquot:request.quantity.value/multiplier.value=(n:ℤ):=by
     rw[hexact,mul_div_cancel_right₀ _ hpos.ne',Int.cast_natCast]
    rw[hquot,Decimal.round16_of_whole (n:=n*10^16) (by push_cast; rfl)] at hround
    exact_mod_cast hround.symm
   have hle:k≤2^63:=by rcases hfits with hlt | ⟨-,rfl⟩<;>omega
   unfold SizedExactly
   rw[hsize]
   split
   next hsell=>
    rw[toInt_neg_ofInt hk hle,hexact,hkn]
    refine ⟨by simp,fun hbuy=>?_,fun _=>by omega⟩
    cases hbuy.symm.trans hsell
   next hsell=>
    have hlt:k<2^63:=by
     grind
    rw[Int64.toInt_ofInt_of_le (by omega) hlt,hexact,hkn]
    exact ⟨by simp,fun _=>by omega,fun hs=>absurd hs hsell⟩

namespace PerpPlace

def request (quantity:Decimal):PlaceOrderRequest:=
 { instrument:=
    { identity:=
       { venue:=.gate,product:=.perp,symbol:="BTC-USDT",baseAsset:="BTC",quoteAsset:="USDT"
         settleAsset:="USDT",nativeSymbol:="BTC_USDT" }
      rules:={priceIncrement:=⟨1,-1⟩,quantityIncrement:=⟨1,-17⟩}
      encoding:={contractMultiplier:=some ⟨1,0⟩}}
   clientOrderId:="7",side:=.sell,type:=.market,quantity}

theorem sale_sized_exactly:∃ sent,futuresPlacement ⟨.gate,.perp⟩ (request ⟨3,0⟩)=.ok sent∧sent.size = -3∧
 SizedExactly (request ⟨3,0⟩) ⟨1,0⟩ sent:=by
 refine ⟨_,rfl,by decide,(@gate_size_exact_iff ⟨.gate,.perp⟩ _ _ _ rfl rfl).mpr ⟨3,?_,.inl (by norm_num)⟩⟩
 norm_num [request,Decimal.value]

theorem remainder_dropped:∃ sent,
 futuresPlacement ⟨.gate,.perp⟩ (request ⟨300000000000000001,-17⟩)=.ok sent∧
  ¬ SizedExactly (request ⟨300000000000000001,-17⟩) ⟨1,0⟩ sent:=by
 refine ⟨_,rfl,fun h=>?_⟩
 have hsize: |((-3:ℤ):ℚ)| * (⟨1,0⟩:Decimal).value=(⟨300000000000000001,-17⟩:Decimal).value:=h.1
 norm_num [Decimal.value] at hsize

end PerpPlace

end BolterTrader.Adapters.Gate
