import BolterTrader.Exchange.Orders
import BolterTrader.Foundations.DecimalRounding

/-! Open interest in the Gate ticker stream (`funding_market_batched_stream.go`,
`funding_board.go`). -/
namespace BolterTrader.Adapters.GateTickers
open Foundations Foundations.Decimal Exchange

structure NativeDerivativeFact where
 instrument:InstrumentIdentity
 fundingRate:OptionalDecimal:=none
 markPrice:OptionalDecimal:=none
 indexPrice:OptionalDecimal:=none
 openInterest:OptionalDecimal:=none
 openInterestNotional:OptionalDecimal:=none
 openInterestNotionalAsset:String:=""
 fundingObservedAt:Timestamp:=none
 priceObservedAt:Timestamp:=none
 openInterestObservedAt:Timestamp:=none

structure FuturesTicker where
 contract:String
 totalSize:String:=""
 markPrice:String:=""
 indexPrice:String:=""
 fundingRate:String:=""

inductive Field where
 | funding | markPrice | indexPrice | openInterest | openInterestNotional

def fundingOptionalSigned (value:String):OptionalDecimal:=ofString? (GoText.trimSpace value)
def fundingOptionalDecimal (value:String):OptionalDecimal:=(ofString? value).filter isPositive
def fundingOptionalNonNegative (value:String):OptionalDecimal:=(ofString? value).filter (!·.isNegative)

def fundingOpenInterestNotional (openInterest markPrice:String) (multiplier:Decimal):OptionalDecimal:=do
 let quantity ← (ofString? openInterest).filter fun quantity=>!quantity.isNegative && multiplier.isPositive
 let price ← (ofString? markPrice).filter isPositive
 return (quantity.mul multiplier).mul price

/-! ## What the stream starts with -/

def recovered (fact:NativeDerivativeFact):Decimal:=
 match fact.openInterest,fact.openInterestNotional,fact.markPrice with
 | some openInterest,some notional,some mark=>
  if openInterest.isPositive then (notional.div openInterest).div mark else .ofInt 1
 | _,_,_=>.ofInt 1

structure Subscription where
 identities:String→Option InstrumentIdentity
 multipliers:String→Decimal
 payload:List String

def gateSubscriptionFacts (facts:List NativeDerivativeFact):Subscription where
 identities:=facts.foldl (fun known fact=>Function.update known fact.instrument.nativeSymbol (some fact.instrument)) fun _=>none
 multipliers:=facts.foldl (fun known fact=>Function.update known fact.instrument.nativeSymbol (recovered fact)) fun _=>{}
 payload:=((facts.map (·.instrument.nativeSymbol)).dedup).mergeSort (· ≤ ·)

/-! ## Tickers -/

def gateTickerFact (identity:InstrumentIdentity) (row:FuturesTicker) (multiplier:Decimal) (observedAt:Timestamp):
 NativeDerivativeFact×List Field:=
 let fundingRate:=if row.fundingRate="" then none else fundingOptionalSigned row.fundingRate
 let markPrice:=fundingOptionalDecimal row.markPrice
 let indexPrice:=fundingOptionalDecimal row.indexPrice
 let openInterest:=if row.totalSize="" then none else fundingOptionalNonNegative row.totalSize
 let notional:=if row.totalSize="" then none else fundingOpenInterestNotional row.totalSize row.markPrice multiplier
 ({ instrument:=identity
    fundingRate,markPrice,indexPrice,openInterest
    openInterestNotional:=notional
    openInterestNotionalAsset:=if notional.isSome then identity.settleAsset else ""
    fundingObservedAt:=if fundingRate.isSome then observedAt else none
    priceObservedAt:=if markPrice.isSome || indexPrice.isSome then observedAt else none
    openInterestObservedAt:=if openInterest.isSome then observedAt else none},
  (if fundingRate.isSome then [.funding] else [])++(if markPrice.isSome then [.markPrice] else []) ++
   (if indexPrice.isSome then [.indexPrice] else [])++(if openInterest.isSome then [.openInterest] else []) ++
   (if notional.isSome then [.openInterestNotional] else []))

def handle (subscription:Subscription) (observedAt:Timestamp) (row:FuturesTicker):
  Option (NativeDerivativeFact×List Field):=do
 let identity ← subscription.identities row.contract
 let (fact,fields):=gateTickerFact identity row (subscription.multipliers row.contract) observedAt
 if fields=[] then none else some (fact,fields)

section
variable {facts before after:List NativeDerivativeFact} {fact:NativeDerivativeFact} {row:FuturesTicker} {total price:Decimal}

theorem foldl_update {β:Type} (f:NativeDerivativeFact→β) (knw:String→β) (hfac:facts=before++fact::after)
 (hlast:∀ oth∈after,oth.instrument.nativeSymbol≠fact.instrument.nativeSymbol):
 facts.foldl (fun knw fact=>Function.update knw fact.instrument.nativeSymbol (f fact)) knw
  fact.instrument.nativeSymbol=f fact:=by
 subst hfac
 rw[List.foldl_append,List.foldl_cons]
 generalize before.foldl _ knw=start
 have hkept:∀ knw:String→β,after.foldl (fun knw fact=>Function.update knw fact.instrument.nativeSymbol (f fact)) knw
   fact.instrument.nativeSymbol=knw fact.instrument.nativeSymbol:=by
  induction after with
  | nil=>exact fun _=>rfl
  | cons oth rest ih=>
   intro knw
   obtain ⟨hoth,hrest⟩:=List.forall_mem_cons.mp hlast
   rw[List.foldl_cons,ih hrest,Function.update_of_ne hoth.symm]
 rw[hkept,Function.update_self]

theorem notional_of_handle (hfac:facts=before++fact::after)
 (hlast:∀ oth∈after,oth.instrument.nativeSymbol≠fact.instrument.nativeSymbol)
 (hcon:row.contract=fact.instrument.nativeSymbol) (htot:ofString? row.totalSize=some total)
 (htt':0≤total.value) (hpr:ofString? row.markPrice=some price) (hpr':0<price.value)
 (oat:Timestamp) (value:Decimal):
 (∃ rpr,handle (gateSubscriptionFacts facts) oat row=some rpr∧
   rpr.1.openInterestNotional=some value) ↔
  0<(recovered fact).value∧(total.mul (recovered fact)).mul price=value:=by
 have hide:(gateSubscriptionFacts facts).identities row.contract=some fact.instrument:=by
  rw[hcon]
  exact foldl_update (fun fact=>some fact.instrument) _ hfac hlast
 have hmul:(gateSubscriptionFacts facts).multipliers row.contract=recovered fact:=by
  rw[hcon]
  exact foldl_update recovered _ hfac hlast
 have hsize:row.totalSize≠"" := by
  intro hnil
  rw[hnil] at htot
  cases htot
 have hnon:total.isNegative=false:=by
  rw[←Bool.not_eq_true,isNegative_iff]
  exact htt'.not_gt
 have hnot:fundingOpenInterestNotional row.totalSize row.markPrice (recovered fact) =
   if 0<(recovered fact).value then some ((total.mul (recovered fact)).mul price) else none:=by
  simp only[fundingOpenInterestNotional,htot,hpr,Option.filter,hnon,(isPositive_iff price).mpr hpr',←isPositive_iff]
  split<;>simp_all
 simp only[handle,hide,hmul,gateTickerFact,if_neg hsize,hnot]
 by_cases hpos:0<(recovered fact).value<;>simp[hpos]

def Reports (facts:List NativeDerivativeFact) (fact:NativeDerivativeFact) (m tolerance:ℚ):Prop:=
 ∀ row total price observedAt,row.contract=fact.instrument.nativeSymbol →
  ofString? row.totalSize=some total→0≤total.value→ ofString? row.markPrice=some price→0<price.value →
  ∃ reported value,handle (gateSubscriptionFacts facts) observedAt row=some reported∧
   reported.1.openInterestNotional=some value∧
   |value.value-total.value*price.value*m| ≤ total.value*price.value*tolerance

theorem reports_iff (hfac:facts=before++fact::after)
 (hlast:∀ oth∈after,oth.instrument.nativeSymbol≠fact.instrument.nativeSymbol) (m tolerance:ℚ):
 Reports facts fact m tolerance ↔ 0<(recovered fact).value∧|(recovered fact).value-m| ≤ tolerance:=by
 constructor
 · intro h
   let row : FuturesTicker:={contract:=fact.instrument.nativeSymbol,totalSize:="1",markPrice:="1" }
   have hone:ofString? "1" = some ⟨1,0⟩:=by decide
   have hunit:(⟨1,0⟩ : Decimal).value=1:=by norm_num [Decimal.value]
   have hpos:0<(⟨1,0⟩ : Decimal).value:=hunit▸one_pos
   obtain ⟨rpr,value,hhan,hv,hcls⟩:=h row ⟨1,0⟩ ⟨1,0⟩ none rfl hone hpos.le hone hpos
   have hrep:=@notional_of_handle facts before after fact row ⟨1,0⟩ ⟨1,0⟩ hfac hlast rfl hone hpos.le hone hpos none value
   obtain ⟨hrec,rfl⟩:=hrep.mp ⟨rpr,hhan,hv⟩
   exact ⟨hrec,by simpa[hunit] using hcls⟩
 · rintro ⟨hpos,hcls⟩ row total price oat hcon htot htt' hpr hpr'
   obtain ⟨rpr,hhan,hv⟩:=
    (notional_of_handle hfac hlast hcon htot htt' hpr hpr' oat _).mpr ⟨hpos,rfl⟩
   refine ⟨rpr,_,hhan,hv,?_⟩
   have hsca:0≤total.value*price.value:=mul_nonneg htt' hpr'.le
   calc |((total.mul (recovered fact)).mul price).value-total.value*price.value*m|
     = total.value*price.value * |(recovered fact).value-m| := by
         rw[value_mul,value_mul,←abs_of_nonneg hsca,←abs_mul,abs_of_nonneg hsca]
         congr 1
         ring
    _≤total.value*price.value*tolerance:=mul_le_mul_of_nonneg_left hcls hsca

/-- When the notional of a ticker is open interest times mark price times multiplier. -/
theorem gate_notional_iff (hfacts:facts=before++fact::after)
 (hlast:∀ other∈after,other.instrument.nativeSymbol≠fact.instrument.nativeSymbol) {oi notional mark:Decimal} {m:ℚ}
 (hoi:fact.openInterest=some oi) (hnotional:fact.openInterestNotional=some notional)
 (hmark:fact.markPrice=some mark) (hm:0< m) (hmark':0< mark.value)
 (hproduct:notional.value=oi.value*mark.value*m):
 Reports facts fact m (halfUnit+halfUnit/mark.value) ↔
  if 0<oi.value then halfUnit*mark.value≤round16 (mark.value*m) else |1-m| ≤ halfUnit+halfUnit/mark.value:=by
 rw[reports_iff hfacts hlast]
 simp only[recovered,hoi,hnotional,hmark,isPositive_iff]
 split
 next hpos=>
  have hnon:0≤notional.value:=by
   rw[hproduct]
   positivity
  have hwor:notional.value/oi.value=mark.value*m:=by
   grind
  have hfst:=value_div hnon hpos
  have hcls:=abs_value_div_sub_le hnon hpos
  rw[hwor] at hfst hcls
  have hpart:0≤(notional.div oi).value:=hfst▸round16_nonneg (by positivity)
  have hcls':=abs_value_div_sub_le hpart hmark'
  rw[value_div_pos_iff hpart hmark',hfst,le_div_iff₀ hmark',and_iff_left]
  calc |((notional.div oi).div mark).value-m|
    ≤ |((notional.div oi).div mark).value-(notional.div oi).value/mark.value| +
     |(notional.div oi).value/mark.value-m| := abs_sub_le _ _ _
   _≤halfUnit+halfUnit/mark.value:=by
    refine add_le_add hcls' ?_
    rw[le_div_iff₀ hmark',←abs_of_pos hmark',←abs_mul,abs_of_pos hmark',sub_mul,div_mul_cancel₀ _ hmark'.ne',mul_comm m]
    exact hcls
 next=>
  rw[value_ofInt]
  simp

end

namespace Scenario

def btc (openInterest notional:Decimal):NativeDerivativeFact where
 instrument:={nativeSymbol:="BTC_USDT",settleAsset:="USDT" }
 markPrice:=some ⟨50000,0⟩
 openInterest:=some openInterest
 openInterestNotional:=some notional

theorem contract_worth_recovered :
 Reports [btc ⟨20,0⟩ ⟨100,0⟩] (btc ⟨20,0⟩ ⟨100,0⟩) (1/10000) (halfUnit+halfUnit/(⟨50000,0⟩ : Decimal).value):=by
 refine (gate_notional_iff (List.nil_append [_]).symm (List.forall_mem_nil _) rfl rfl rfl (by norm_num) (by norm_num [Decimal.value])
  (by norm_num [Decimal.value])).mpr ?_
 norm_num [Decimal.value,halfUnit,round16,round_eq]

/-- The first facts of a contract without open interest make every later notional that of a contract worth one
unit of the base asset. -/
theorem contract_worth_forgotten :
    (handle (gateSubscriptionFacts [btc ⟨0, 0⟩ ⟨0, 0⟩]) none
      {contract := "BTC_USDT", totalSize := "20", markPrice := "50000" }).map (·.1.openInterestNotional) =
        some (some ⟨1000000, 0⟩) ∧
      ¬Reports [btc ⟨0, 0⟩ ⟨0, 0⟩] (btc ⟨0, 0⟩ ⟨0, 0⟩) (1 / 10000)
        (halfUnit + halfUnit / (⟨50000, 0⟩ : Decimal).value) := by
  refine ⟨by decide +kernel, fun h => ?_⟩
  have hclose := ((reports_iff (List.nil_append [_]).symm (List.forall_mem_nil _) _ _).mp h).2
  have hone : (recovered (btc ⟨0, 0⟩ ⟨0, 0⟩)).value = 1 := by
    rw [show recovered (btc ⟨0, 0⟩ ⟨0, 0⟩) = ⟨1, 0⟩ by decide +kernel]
    norm_num [Decimal.value]
  rw [hone] at hclose
  norm_num [Decimal.value, halfUnit] at hclose

end Scenario

end BolterTrader.Adapters.GateTickers
