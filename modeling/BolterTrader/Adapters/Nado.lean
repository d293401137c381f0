import BolterTrader.Exchange.Accounts
import BolterTrader.Exchange.Placement
import BolterTrader.Foundations.DecimalText
import BolterTrader.Foundations.DecimalWhole
import Mathlib.Data.List.ReduceOption

/-! Positions and order prices on Nado (`nado.go`, `sdk/nado/utils.go`). -/
namespace BolterTrader.Adapters.Nado
open Foundations Foundations.Fallible Exchange

def nadoErr (product:Product) (operation:String) (kind:ErrorKind) (message:String):Error:=
 {kind,details:={venue:=.nado,product,operation,safeMessage:=message}}

def nadoMalformed (product:Product) (operation message:String):Error:=
 nadoErr product operation .malformedResponse message

structure NadoProduct where
 productId:Int
 native:String
 instrument:Instrument

def nadoX18 (value:String):Option Decimal:=
 (Decimal.int? (GoText.trimSpace value).toList).map fun units=>⟨units,-18⟩

/-! ## Positions -/

structure PerpBalance where
 productId:Int
 amount:String
 vQuoteBalance:Option String

def byId (products:List NadoProduct) (id:Int):Option NadoProduct:=products.reverse.find? (·.productId=id)

def position (products known:List NadoProduct) (prices:Int→Except Error String) (row:PerpBalance):
  Except Error (Option Position):=do
 let qty ← required (nadoMalformed .perp "Positions" "invalid position quantity") (nadoX18 row.amount)
 if byId known row.productId=none then
  refuse (¬qty.isZero) (nadoErr .perp "Positions" .metadataResolution "Nado position product metadata was not found")
  return none
 else match byId products row.productId with
  | none=>return none
  | some product=>
   if qty.isZero then return none
   else
    let vQuote ← match row.vQuoteBalance with
     | none=>.ok .zero
     | some text=>required (nadoMalformed .perp "Positions" "invalid v_quote balance") (nadoX18 text)
    let price ← prices product.productId
    let mark ← required (nadoMalformed .perp "Positions" "invalid mark price") (nadoX18 price)
    return some {
     nativeSymbol:=product.native
     nativeId:=product.instrument.identity.nativeId
     side:=if qty.isNegative then .sell else .buy
     quantity:=qty.abs
     entryPrice:=if qty.isZero then .zero else vQuote.neg.div qty.abs
     markPrice:=mark}

def positions (account:Except Error (List PerpBalance)) (products known:Except Error (List NadoProduct))
  (prices:Int→Except Error String):Except Error (List Position):=do
 let rows ← account
 let products ← products
 let known ← known
 let found ← rows.mapM (position products known prices)
 return found.reduceOption

structure PositionChange where
 productId:Int
 amount:String
 vQuoteAmount:String
 timestamp:String

def nadoSignedSide (qty:Decimal):Except String Side:=
 if qty.isPositive then .ok .buy else if qty.isNegative then .ok .sell else .error "zero quantity has no side"

def nadoPositionEvent (change:Option PositionChange) (product:NadoProduct) (operation:String):
  Except Error PositionEvent:=do
 let change ← required (nadoMalformed .perp operation "position product mismatch")
  (change.filter (·.productId=product.productId))
 let qty ← required (nadoMalformed .perp operation "invalid position quantity") (nadoX18 change.amount)
 let side ← (if qty.isZero then .ok .unset else (nadoSignedSide qty).mapError (nadoMalformed .perp operation):
  Except Error Side)
 let vQuote ← required (nadoMalformed .perp operation "invalid v_quote amount") (nadoX18 change.vQuoteAmount)
 let _ ← required (nadoMalformed .perp operation "invalid position timestamp")
  (Decimal.parseInt64? (GoText.trimSpace change.timestamp))
 return {
  kind:=.delta
  positions:=[{
   nativeSymbol:=product.native
   nativeId:=product.instrument.identity.nativeId
   side
   quantity:=qty.abs
   entryPrice:=if qty.isZero then .zero else vQuote.neg.div qty.abs}]}

section
variable {q v:Decimal} {row:PerpBalance} {products known:List NadoProduct} {prices:Int→Except Error String}

theorem entryPrice_of_position {fnd:Option Position} {prod:NadoProduct} (hamount:nadoX18 row.amount=some q)
 (hquote:row.vQuoteBalance.map nadoX18=some (some v)) (hq:q.isZero=false)
 (hpro:byId products row.productId=some prod) (h:position products known prices row=.ok fnd):
 ∃ held,fnd=some held∧held.entryPrice=v.neg.div q.abs:=by
 obtain ⟨text,htext,hv⟩:=Option.map_eq_some_iff.mp hquote
 simp only[position,hamount,hpro,htext,hv,hq,required,bind,Except.bind] at h
 split at h
 · simp[refuse] at h
 · cases hpr : prices prod.productId with
   | error=>simp[hpr] at h
   | ok px=>
    cases hmark : nadoX18 px with
    | none=>simp[hpr,hmark] at h
    | some mark=>
     simp only[hpr,hmark] at h
     cases h
     exact ⟨_,rfl,rfl⟩

theorem entryPrice_of_event {change:PositionChange} {prod:NadoProduct} {op:String} {ev:PositionEvent}
 (hamount:nadoX18 change.amount=some q) (hquote:nadoX18 change.vQuoteAmount=some v) (hq:q.isZero=false)
 (h:nadoPositionEvent (some change) prod op=.ok ev):
 ∃ held,ev.positions=[held]∧held.entryPrice=v.neg.div q.abs:=by
 obtain ⟨own,hown,h⟩:=bind_eq_ok h
 cases (Option.filter_eq_some_iff.mp (required_eq_ok hown)).1
 obtain ⟨qty,hqty,h⟩:=bind_eq_ok h
 cases hamount.symm.trans (required_eq_ok hqty)
 obtain ⟨side,-,h⟩:=bind_eq_ok h
 obtain ⟨vqu,hqq,h⟩:=bind_eq_ok h
 cases hquote.symm.trans (required_eq_ok hqq)
 cases past h
 grind

theorem entry_iff (hopp:q.value*v.value<0):
 (0<(v.neg.div q.abs).value∧|q.value*(v.neg.div q.abs).value+v.value| ≤ |q.value| * Decimal.halfUnit) ↔
  0<q.value∧Decimal.halfUnit ≤ -v.value/q.value:=by
 rcases mul_neg_iff.mp hopp with ⟨hq,hv⟩ | ⟨hq,hv⟩
 · have habs:q.abs.value=q.value:=(Decimal.value_abs q).trans (abs_of_pos hq)
   have hneg:0≤v.neg.value:=by rw[Decimal.value_neg]; linarith
   have hpos:0<q.abs.value:=habs.symm▸hq
   have hcls:=Decimal.abs_value_div_sub_le hneg hpos
   rw[Decimal.value_div_pos_iff hneg hpos]
   rw[habs,Decimal.value_neg] at hcls ⊢
   refine ⟨fun h=>⟨hq,h.1⟩,fun h=>⟨h.2,?_⟩⟩
   calc |q.value*(v.neg.div q.abs).value+v.value| = |q.value| * |(v.neg.div q.abs).value - -v.value/q.value| := by
         rw[←abs_mul,mul_sub,mul_div_cancel₀ _ hq.ne',sub_neg_eq_add]
    _ ≤ |q.value| * Decimal.halfUnit:=mul_le_mul_of_nonneg_left hcls (abs_nonneg _)
 · grind [Decimal.value_neg,Decimal.value_abs,Decimal.value_div_nonpos]

/-- When both paths report the entry price that the balance implies. -/
theorem nado_entry_price_iff {held:List Position} {change:PositionChange} {product:NadoProduct} {operation:String}
 {event:PositionEvent} {rows:List PerpBalance} (hload:positions (.ok rows) (.ok products) (.ok known) prices=.ok held)
 (hrow:row∈rows) (hproduct:byId products row.productId=some product)
 (hstream:nadoPositionEvent (some change) product operation=.ok event) (hamount:nadoX18 row.amount=some q)
 (hquote:row.vQuoteBalance.map nadoX18=some (some v)) (hamount':nadoX18 change.amount=some q)
 (hquote':nadoX18 change.vQuoteAmount=some v) (hopposite:q.value*v.value<0):
 ∃ loaded∈held,position products known prices row=.ok (some loaded)∧∃ streamed,event.positions=[streamed]∧
  loaded.entryPrice=streamed.entryPrice∧
  ((0<loaded.entryPrice.value∧|q.value*loaded.entryPrice.value+v.value| ≤ |q.value| * Decimal.halfUnit) ↔
   0<q.value∧Decimal.halfUnit ≤ -v.value/q.value):=by
 have hq:q.isZero=false:=by
  rw[←Bool.not_eq_true,Decimal.isZero_iff]
  rintro hzero
  simp[hzero] at hopposite
 replace hload : (rows.mapM (position products known prices) >>= fun found=>pure found.reduceOption)=.ok held:=hload
 obtain ⟨found,hfd,hheld⟩:=bind_eq_ok hload
 cases hheld
 obtain ⟨result,hres,hown⟩:=exists_of_mapM_mem hfd hrow
 obtain ⟨loaded,rfl,hen⟩:=entryPrice_of_position hamount hquote hq hproduct hown
 obtain ⟨streamed,hstr,hen'⟩:=entryPrice_of_event hamount' hquote' hq hstream
 refine ⟨loaded,List.reduceOption_mem_iff.mpr hres,hown,streamed,hstr,hen.trans hen'.symm,?_⟩
 rw[hen]
 exact entry_iff hopposite

end

namespace Scenario

def btc:NadoProduct:={productId:=2,native:="BTC-PERP",instrument:={}}
def balance (amount vQuote:String):PerpBalance:={productId:=2,amount,vQuoteBalance:=some vQuote}
def change (amount vQuoteAmount:String):PositionChange:={productId:=2,amount,vQuoteAmount,timestamp:="1751328000" }

def held (side:Side) (entryPrice markPrice:Decimal):Position where
 nativeSymbol:="BTC-PERP"
 side:=side
 quantity:=⟨2000000000000000000,-18⟩
 entryPrice:=entryPrice
 markPrice:=markPrice

theorem long_entry_price:∃ loaded∈[held .buy ⟨30000000000000000,-16⟩ ⟨4000000000000000000,-18⟩],0<loaded.entryPrice.value:=by
 obtain ⟨loaded,hmem,-,-,-,-,hiff⟩:=nado_entry_price_iff (q:=⟨2000000000000000000,-18⟩) (v:=⟨-6000000000000000000,-18⟩)
  (show positions (.ok [balance "2000000000000000000" "-6000000000000000000"]) (.ok [btc]) (.ok [btc])
   (fun _=>.ok "4000000000000000000")=.ok [held .buy ⟨30000000000000000,-16⟩ ⟨4000000000000000000,-18⟩] by rfl)
  (List.mem_singleton_self _) (show byId [btc] 2=some btc by rfl)
  (show nadoPositionEvent (some (change "2000000000000000000" "-6000000000000000000")) btc "WatchPositions" =
   .ok {kind:=.delta,positions:=[held .buy ⟨30000000000000000,-16⟩ {}]} by rfl)
  rfl rfl rfl rfl (by norm_num [Decimal.value])
 exact ⟨loaded,hmem,(hiff.mpr (by norm_num [Decimal.value,Decimal.halfUnit])).1⟩

theorem short_entry_price_negative :
 positions (.ok [balance "-2000000000000000000" "6000000000000000000"]) (.ok [btc]) (.ok [btc])
   (fun _=>.ok "4000000000000000000")=.ok [held .sell ⟨-30000000000000000,-16⟩ ⟨4000000000000000000,-18⟩]∧
  nadoPositionEvent (some (change "-2000000000000000000" "6000000000000000000")) btc "WatchPositions" =
   .ok {kind:=.delta,positions:=[held .sell ⟨-30000000000000000,-16⟩ {}]}:=⟨rfl,rfl⟩

end Scenario

/-! ## Order prices -/

inductive Failure where
 | exchange (err:Error)
 | plain (text:String)
 deriving DecidableEq

structure Book where
 asks:List Decimal:=[]
 bids:List Decimal:=[]

def bound:Side→ℚ
 | .sell=>19/20
 | _=>21/20

def Priced (side:Side) (best tick price:ℚ):Prop:=
 0<price∧(∃ k:ℤ,price=k*tick)∧
  match side with
  | .sell=>price≤bound side*best∧bound side*best-tick<price
  | _=>bound side*best≤price∧price<bound side*best+tick

def Answers (side:Side) (best tick:Decimal):Except String Decimal→Prop
 | .ok price=>Priced side best.value tick.value price.value
 | .error _=>¬∃ price,Priced side best.value tick.value price

def ticks (side:Side) (best tick:ℚ):ℚ:=Decimal.round16 (Decimal.round16 (bound side*best)/tick)

def Book.best (book:Book):Side→Option Decimal
 | .sell=>book.bids.head?
 | _=>book.asks.head?

section
variable {best tick:Decimal} {side:Side}

end

namespace Scenario

end Scenario

end BolterTrader.Adapters.Nado
