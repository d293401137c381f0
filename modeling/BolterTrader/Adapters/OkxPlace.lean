import BolterTrader.ExactLookup.Okx
import BolterTrader.Exchange.Placement
import BolterTrader.Foundations.DecimalText
import BolterTrader.Foundations.DecimalWhole

/-! Orders on the OKX perpetual market (`okxPerpClient.PlaceOrder` in `okx_rest.go`). -/
namespace BolterTrader.Adapters.Okx
open Foundations Foundations.Fallible Exchange

def placeFailure (kind:ErrorKind) (message:String):NativeError:=failure .perp "PlaceOrder" kind "" message

structure ContractMeta where
 instrument:Instrument
 contractValue:Decimal
 contractIncrement:Decimal

def okxContractMetaFromInstrument (lib:ExactLookup.Library) (instrument:Instrument):Except String ContractMeta:=do
 let contractValue ← ExactLookup.Okx.okxContractValue lib instrument
 return {instrument,contractValue,contractIncrement:=instrument.rules.quantityIncrement.div contractValue}

def okxPerpMeta (lib:ExactLookup.Library) (catalog:Except NativeError (List Instrument)) (instrument:Instrument):
  Except NativeError ContractMeta:=do
 (ExactLookup.Okx.okxValidateSwapInstrument lib instrument).mapError (placeFailure .invalidRequest)
 let instruments ← catalog.mapError (withExchangeOperation · "PlaceOrder")
 let metas ← instruments.mapM fun listed=>
  (okxContractMetaFromInstrument lib listed).mapError (placeFailure .malformedResponse)
 required (placeFailure .invalidRequest "instrument is not present in OKX SWAP metadata")
  (metas.reverse.find? (·.instrument.identity.nativeSymbol=instrument.identity.nativeSymbol))

structure OrderRequest where
 instId:String
 tdMode:String:="cross"
 clOrdId:String
 side:String
 ordType:String
 sz:String
 px:Option String
 reduceOnly:Bool

def okxOrderRequestShape (request:PlaceOrderRequest):String×Option String:=
 if request.type=.market then ("market",none)
 else match request.limitPolicy with
  | .ioc=>("ioc",some request.limitPrice.toText)
  | .postOnly=>("post_only",some request.limitPrice.toText)
  | _=>("limit",some request.limitPrice.toText)

def placement (lib:ExactLookup.Library) (catalog:Except NativeError (List Instrument)) (request:PlaceOrderRequest):
  Except NativeError OrderRequest:=do
 (request.validate .perp).mapError fun err=>placeFailure .invalidRequest err.text
 let own ← okxPerpMeta lib catalog request.instrument
 let contracts:=request.quantity.div own.contractValue
 refuse ((contracts.mod own.contractIncrement).isZero=false)
  (placeFailure .invalidRequest "quantity must align to OKX contract lot size")
 let (ordType,px):=okxOrderRequestShape request
 return {
  instId:=request.instrument.identity.nativeSymbol
  clOrdId:=request.clientOrderId
  side:=request.side.text
  ordType
  sz:=contracts.toText
  px
  reduceOnly:=request.reduceOnly}

theorem okxPerpMeta_mem {lib:ExactLookup.Library} {catalog:Except NativeError (List Instrument)} {instrument:Instrument}
 {own:ContractMeta} (h:okxPerpMeta lib catalog instrument=.ok own):
 own.instrument.encoding.contractMultiplier=some own.contractValue∧0<own.contractValue.value∧
  own.contractIncrement=own.instrument.rules.quantityIncrement.div own.contractValue:=by
 obtain ⟨instruments,-,h⟩:=bind_eq_ok (past h)
 obtain ⟨metas,hmetas,h⟩:=bind_eq_ok h
 have hmem:own∈metas:=List.mem_reverse.mp (List.mem_of_find?_eq_some (required_eq_ok h))
 obtain ⟨listed,-,hread⟩:=exists_of_mem_mapM hmetas hmem
 obtain ⟨value,hvalue,hread⟩:=bind_eq_ok (mapError_eq_ok hread)
 cases hread
 obtain ⟨value',hfound,hvalue⟩:=bind_eq_ok (past hvalue)
 cases past hvalue
 grind [required_eq_ok,Decimal.isPositive_iff,Option.filter_eq_some_iff.mp]

theorem quantity_aligned {product:Product} {request:PlaceOrderRequest} {u:Unit} (h:request.validate product=.ok u):
 ∃ n : ℤ,request.quantity.value=n*request.instrument.rules.quantityIncrement.value:=by
 obtain ⟨_,haligned,-⟩:=bind_eq_ok (past (past (past (past (past h)))))
 have hok:=refuse_eq_ok haligned
 rw[Bool.not_eq_false,decimalAligned,Bool.and_eq_true,decide_eq_true_eq] at hok
 exact (Decimal.tmod_eq_zero_iff _ _).mp hok.2

/-- The text `sz` of an accepted placement stands for exactly one number of contracts, and that many contracts are
the requested quantity. -/
theorem okx_contracts_exact {lib:ExactLookup.Library} {catalog:Except NativeError (List Instrument)}
 {request:PlaceOrderRequest} {own:ContractMeta} {lot:Decimal}
 (hlot:0<lot.value) (hplaces:∃ n : ℤ,lot.value*10^16=n)
 (hincrement:request.instrument.rules.quantityIncrement.value=lot.value*own.contractValue.value)
 (hvalid:request.validate .perp=.ok ()) (hown:okxPerpMeta lib catalog request.instrument=.ok own)
 (hlisted:own.instrument=request.instrument):
 ∃ sent count,placement lib catalog request=.ok sent∧sent.sz=Decimal.toText count∧
  (∀ other,Decimal.toText other=sent.sz→ other.value=count.value)∧
  count.value*own.contractValue.value=request.quantity.value:=by
 obtain ⟨-,hpos,hincr⟩:=okxPerpMeta_mem hown
 have hq:=PlaceOrderRequest.quantity_pos hvalid
 obtain ⟨n,hn⟩:=quantity_aligned hvalid
 obtain ⟨units,hunits⟩:=hplaces
 -- both quotients have at most sixteen places, so that nothing is rounded away
 have hlotQuot:own.contractIncrement.value=lot.value:=by
  rw[hincr,hlisted,Decimal.value_div (by rw[hincrement]; positivity) hpos,hincrement,
   mul_div_cancel_right₀ _ hpos.ne',Decimal.round16_of_whole hunits]
 have hcount:(request.quantity.div own.contractValue).value=n*lot.value:=by
  rw[Decimal.value_div hq.le hpos,hn,hincrement,←mul_assoc,mul_div_cancel_right₀ _ hpos.ne']
  exact Decimal.round16_of_whole (n:=n*units) (by rw[mul_assoc,hunits]; push_cast; rfl)
 have haligned:((request.quantity.div own.contractValue).mod own.contractIncrement).isZero=true:=
  (Decimal.mod_isZero_iff _ _).mpr ⟨n,by rw[hcount,hlotQuot]⟩
 have hsent:∃ sent,placement lib catalog request=.ok sent∧
   sent.sz=(request.quantity.div own.contractValue).toText:=by
  rw[placement,hvalid,hown]
  simp only[Except.mapError,bind,Except.bind,haligned]
  exact ⟨_,rfl,rfl⟩
 obtain ⟨sent,hsent,hsz⟩:=hsent
 refine ⟨sent,_,hsent,hsz,fun other hother=>?_,by rw[hcount,hn,hincrement]; ring⟩
 exact (Decimal.toText_eq_toText_iff _ _).mp (hother.trans hsz)

namespace Place

def perp:Instrument:=
 { identity:=
    { venue:=.okx,product:=.perp,symbol:="BTC-USDT-SWAP",baseAsset:="BTC",quoteAsset:="USDT"
      settleAsset:="USDT",nativeSymbol:="BTC-USDT-SWAP" }
   rules:={priceIncrement:=⟨1,-1⟩,quantityIncrement:=⟨1,-4⟩}
   encoding:={contractMultiplier:=some ⟨1,-2⟩}}

def request:PlaceOrderRequest:=
 {instrument:=perp,clientOrderId:="7",side:=.buy,type:=.market,quantity:=⟨123,-4⟩}

def own:ContractMeta:={instrument:=perp,contractValue:=⟨1,-2⟩,contractIncrement:=⟨100000000000000,-16⟩}

theorem lots_counted:∃ sent count,placement ExactLookup.asciiLibrary (.ok [perp]) request=.ok sent∧sent.sz=Decimal.toText count∧
 (∀ other,Decimal.toText other=sent.sz→ other.value=count.value)∧count.value*own.contractValue.value=request.quantity.value:=by
 refine @okx_contracts_exact _ _ _ own ⟨1,-2⟩ ?_ ⟨100000000000000,?_⟩ ?_ rfl rfl rfl
 all_goals norm_num [Decimal.value,request,perp,own]

end Place

end BolterTrader.Adapters.Okx
