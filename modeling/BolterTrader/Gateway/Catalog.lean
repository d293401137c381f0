import BolterTrader.Foundations.Directory
import BolterTrader.Foundations.Transition
import BolterTrader.Gateway.AccountState

/-! The instrument directory of the gateway (`gateway/market/catalog.go`,
`gateway/venue/venue.go`): each market publishes the instruments of its last refresh into
one map. -/
namespace BolterTrader.Gateway.InstrumentCatalog
open Foundations Foundations.Transition Exchange List

/-! ## Markets and ids -/

def markets:List Market:=
 [⟨.binance,.perp,"USDT"⟩,⟨.binance,.spot,""⟩,⟨.okx,.perp,"USDT"⟩,⟨.okx,.spot,""⟩,
  ⟨.bybit,.perp,"USDT"⟩,⟨.bybit,.perp,"USDC"⟩,⟨.bybit,.spot,""⟩,
  ⟨.bitget,.perp,"USDT"⟩,⟨.bitget,.perp,"USDC"⟩,⟨.bitget,.spot,""⟩,
  ⟨.gate,.perp,"USDT"⟩,⟨.gate,.spot,""⟩,⟨.hyperliquid,.perp,"USDC"⟩,⟨.hyperliquid,.spot,""⟩,
  ⟨.lighter,.perp,"USDC"⟩,⟨.lighter,.spot,""⟩]

def newInstrumentId (venue:Venue) (product:Product) (symbol:String):String:=
 venue.text ++ ":" ++ product.text ++ ":" ++ symbol

def settlement (identity:InstrumentIdentity):String:=
 if identity.product=.perp then
  if GoText.toUpper identity.settleAsset="" then GoText.toUpper identity.quoteAsset
  else GoText.toUpper identity.settleAsset
 else ""

def marketOf (native:Exchange.Instrument):Option Market:=
 markets.find? fun market=>
  market.venue=native.identity.venue∧market.product=native.identity.product∧
   market.settlement=settlement native.identity

/-! ## The directory -/

structure Instrument where
 id:String:=""
 venue:Venue:=.unset
 product:Product:=.unset
 symbol:String:=""
 base:String:=""
 quote:String:=""
 settle:String:=""
 tickSize:String:=""
 stepSize:String:=""
 minQty:String:=""
 minNotional:String:=""
 marketFamily:MarketFamily:=.unset
 native:Exchange.Instrument:={}
 deriving DecidableEq

def project (native:Exchange.Instrument):Instrument:=
 { id:=newInstrumentId native.identity.venue native.identity.product native.identity.symbol
   venue:=native.identity.venue
   product:=native.identity.product
   symbol:=native.identity.symbol
   base:=native.identity.baseAsset
   quote:=native.identity.quoteAsset
   settle:=native.identity.settleAsset
   tickSize:=native.rules.priceIncrement.toText
   stepSize:=native.rules.quantityIncrement.toText
   minQty:=native.rules.minQuantity.toText
   minNotional:=(native.rules.minNotional.map Decimal.toText).getD ""
   marketFamily:=native.metadata.marketFamily
   native}

structure Catalog where
 instruments:String→Option Instrument:=fun _=>none
 byMarket:Market→List String:=fun _=>[]
 loadErrors:Market→Option String:=fun _=>none

def projectNext (market:Market) (projected:List Instrument) (native:Exchange.Instrument):List Instrument:=
 if marketOf native≠some market then projected
 else if (project native).id∈projected.map (·.id) then projected
 else projected++[project native]

def projectAll (market:Market) (natives:List Exchange.Instrument):List Instrument:=
 natives.foldl (projectNext market) []

def idLess (a b:String):Bool:=decide (a<b)

namespace Catalog

def publish (sort:SliceSort idLess) (c:Catalog) (market:Market) (natives:List Exchange.Instrument):Catalog:=
 let projected:=projectAll market natives
 { instruments:=Directory.putAll (·.id) (Directory.deleteAll c.instruments (c.byMarket market)) projected
   byMarket:=Function.update c.byMarket market (sort.sort (projected.map (·.id)))
   loadErrors:=Function.update c.loadErrors market none}

def get (c:Catalog) (id:String):Except String Instrument:=
 match c.instruments id with
 | some instrument=>.ok instrument
 | none=>.error ("unknown instrument: " ++ id)

def marketInstruments (c:Catalog) (market:Market):List Instrument:=
 (c.byMarket market).map fun id=>(c.instruments id).getD {}

def passes (filterVenue:Venue) (filterProduct:Product) (market:Market):Bool:=
 (filterVenue=.unset || market.venue=filterVenue) && (filterProduct=.unset || market.product=filterProduct)

def list (c:Catalog) (filterVenue:Venue) (filterProduct:Product):List Instrument:=
 (markets.filter (passes filterVenue filterProduct)).flatMap c.marketInstruments

def directory (c:Catalog):Directory Market String Instrument:=⟨c.instruments,c.byMarket⟩

end Catalog

inductive Event where
 | publish (market:Market) (natives:List Exchange.Instrument)
 | fail (market:Market) (message:String)

def Event.market:Event→Market
 | publish market _=>market
 | fail market _=>market

def Catalog.apply (sort:SliceSort idLess) (c:Catalog):Event→Catalog
 | .publish market natives=>c.publish sort market natives
 | .fail market message=>{c with loadErrors:=Function.update c.loadErrors market (some message)}

def step (sort:SliceSort idLess) (c:Catalog) (event:Event):Option Catalog:=some (c.apply sort event)

/-! ## What the directory owes its readers -/

structure Sound (c:Catalog):Prop where
 mapped:∀ market,∀ id∈c.byMarket market,∃ i,c.get id=.ok i∧marketOf i.native=some market
 one:∀ id i,c.get id=.ok i → ∃! market,id∈c.byMarket market
 once:∀ market,(c.byMarket market).Nodup
 get_id:∀ id i,c.get id=.ok i→ i.id=id
 market_get:∀ market i,i∈c.marketInstruments market ↔ c.get i.id=.ok i∧marketOf i.native=some market
 list_get:∀ venue product i,i∈c.list venue product ↔
  c.get i.id=.ok i∧(venue=.unset∨i.venue=venue)∧(product=.unset∨i.product=product)

structure Same (c c':Catalog) (market:Market):Prop where
 get_eq:∀ id∈c.byMarket market,c'.get id=c.get id
 market_eq:c'.marketInstruments market=c.marketInstruments market
 list_eq:∀ venue product,(c'.list venue product).filter (fun i=>marketOf i.native=some market) =
  (c.list venue product).filter (fun i=>marketOf i.native=some market)

/-- A publication leaves a sound catalog, and the other markets as they were. -/
def Serves (sort:SliceSort idLess) (c:Catalog) (event:Event):Prop:=
 Sound (c.apply sort event)∧∀ other,other≠event.market→Same c (c.apply sort event) other

def NoClash (c:Catalog):Event→Prop
 | .publish market natives=>∀ i∈projectAll market natives,∀ other,i.id∈c.byMarket other→ other=market
 | .fail _ _=>True

/-! ## The entries of a market -/

def Belongs (market:Market) (i:Instrument):Prop:=i=project i.native∧marketOf i.native=some market
abbrev Owned (c:Catalog):Prop:=Directory.Owned Instrument.id Belongs c.directory

theorem belongs_unique {i:Instrument} {market other:Market} (h:Belongs market i) (h':Belongs other i):
 market=other:=Option.some.inj (h.2.symm.trans h'.2)

section
variable {market:Market} {projected:List Instrument} {i:Instrument}

theorem projectNext_nodup (h:(projected.map (·.id)).Nodup) (nat:Exchange.Instrument):
 ((projectNext market projected nat).map (·.id)).Nodup:=by
 grind [projectNext]

theorem projectNext_belongs (h:∀ i∈projected,Belongs market i) (nat:Exchange.Instrument):
 ∀ i∈projectNext market projected nat,Belongs market i:=by
 unfold projectNext
 split
 · exact h
 · next howne=>
   split
   · exact h
   · intro i hi
     cases mem_append.mp hi with
     | inl hold=>exact h i hold
     | inr hnew=>
      cases mem_singleton.mp hnew
      exact ⟨rfl,not_not.mp howne⟩

theorem foldl_projectNext (ntv:List Exchange.Instrument) (hnd:(projected.map (·.id)).Nodup)
 (hbel:∀ i∈projected,Belongs market i):
 ((ntv.foldl (projectNext market) projected).map (·.id)).Nodup∧
  ∀ i∈ntv.foldl (projectNext market) projected,Belongs market i:=by
 induction ntv generalizing projected with
 | nil=>exact ⟨hnd,hbel⟩
 | cons nat rest ih=>exact ih (projectNext_nodup hnd nat) (projectNext_belongs hbel nat)

theorem projectAll_nodup (market:Market) (ntv:List Exchange.Instrument):
 ((projectAll market ntv).map (·.id)).Nodup:=(foldl_projectNext ntv (by simp) (by simp)).1

theorem projectAll_belongs (market:Market) (ntv:List Exchange.Instrument):
 ∀ i∈projectAll market ntv,Belongs market i:=(foldl_projectNext ntv (by simp) (by simp)).2

end

theorem mem_markets {nat:Exchange.Instrument} {market:Market} (h:marketOf nat=some market):
 market∈markets∧market.venue=nat.identity.venue∧market.product=nat.identity.product:=by
 have hfd:=List.find?_some h
 simp only[decide_eq_true_eq] at hfd
 exact ⟨mem_of_find?_eq_some h,hfd.1,hfd.2.1⟩

theorem Belongs.venue {market:Market} {i:Instrument} (h:Belongs market i):
 i.venue=market.venue∧i.product=market.product:=by
 obtain ⟨-,hven,hpro⟩:=mem_markets h.2
 rw[h.1,hven,hpro]
 exact ⟨rfl,rfl⟩

/-! ## Readers of an owned directory -/

section
variable {c:Catalog} {id:String} {i:Instrument} {market:Market}

theorem get_eq_ok_iff:c.get id=.ok i ↔ c.instruments id=some i:=by
 grind [Catalog.get]

theorem get_congr {c':Catalog} (h:c'.instruments id=c.instruments id):c'.get id=c.get id:=by
 simp only[Catalog.get,h]

theorem Owned.get_listed (h:Owned c) (hid:id∈c.byMarket market):
 ∃ i,c.get id=.ok i∧Belongs market i∧i.id=id:=by
 obtain ⟨i,hrow,hbel,hkey⟩:=h.row_of_listed hid
 exact ⟨i,get_eq_ok_iff.mpr hrow,hbel,hkey⟩

theorem Owned.listed_get (h:Owned c) (hget:c.get id=.ok i):
 ∃ market,id∈c.byMarket market∧Belongs market i∧i.id=id:=by
 obtain ⟨market,hmem⟩:=h.listed_of_row (get_eq_ok_iff.mp hget)
 obtain ⟨j,hgt',hbel,hkey⟩:=h.get_listed hmem
 cases hget.symm.trans hgt'
 exact ⟨market,hmem,hbel,hkey⟩

theorem Owned.mem_marketInstruments (h:Owned c):
 i∈c.marketInstruments market ↔ c.get i.id=.ok i∧Belongs market i:=by
 constructor
 · intro hi
   obtain ⟨id,hid,rfl⟩:=mem_map.mp hi
   obtain ⟨j,hget,hbel,rfl⟩:=h.get_listed hid
   rw[get_eq_ok_iff.mp hget]
   exact ⟨hget,hbel⟩
 · rintro ⟨hget,hbel⟩
   obtain ⟨oth,hmem,hoth,-⟩:=h.listed_get hget
   cases belongs_unique hbel hoth
   refine mem_map.mpr ⟨i.id,hmem,?_⟩
   rw[get_eq_ok_iff.mp hget]
   rfl

theorem Owned.mem_list (h:Owned c) (venue:Venue) (prod:Product):
 i∈c.list venue prod ↔
  c.get i.id=.ok i∧(venue=.unset∨i.venue=venue)∧(prod=.unset∨i.product=prod):=by
 have hpas (market:Market) (hbel:Belongs market i):Catalog.passes venue prod market=true ↔
   (venue=.unset∨i.venue=venue)∧(prod=.unset∨i.product=prod):=by
  rw[hbel.venue.1,hbel.venue.2]
  simp[Catalog.passes]
 simp only[Catalog.list,mem_flatMap,mem_filter]
 constructor
 · rintro ⟨market,⟨-,hpass⟩,hi⟩
   obtain ⟨hget,hbel⟩:=h.mem_marketInstruments.mp hi
   grind
 · rintro ⟨hget,hfil⟩
   obtain ⟨market,-,hbel,-⟩:=h.listed_get hget
   have hser:=(mem_markets hbel.2).1
   exact ⟨market,⟨hser,(hpas market hbel).mpr hfil⟩,h.mem_marketInstruments.mpr ⟨hget,hbel⟩⟩

theorem Owned.sound (h:Owned c):Sound c where
 mapped market id hid:=by
  obtain ⟨i,hget,hbel,-⟩:=h.get_listed hid
  exact ⟨i,hget,hbel.2⟩
 one id i hget:=by
  obtain ⟨market,hmem,-⟩:=h.listed_get hget
  exact ⟨market,hmem,fun oth hoth=>h.owner_eq belongs_unique hoth hmem⟩
 once:=h.nodup
 get_id id i hget:=by
  obtain ⟨-,-,-,hkey⟩:=h.listed_get hget
  exact hkey
 market_get market i:=by
  rw[h.mem_marketInstruments]
  constructor
  · rintro ⟨hget,hbel⟩
    exact ⟨hget,hbel.2⟩
  · rintro ⟨hget,howne⟩
    obtain ⟨oth,-,hbel,-⟩:=h.listed_get hget
    exact ⟨hget,hbel.1,howne⟩
 list_get venue product i:=h.mem_list venue product

theorem Owned.filter_list (h:Owned c) (venue:Venue) (prod:Product) (market:Market):
 (c.list venue prod).filter (fun i=>marketOf i.native=some market) =
  (markets.filter (Catalog.passes venue prod)).flatMap fun oth=>
   if oth=market then c.marketInstruments market else []:=by
 rw[Catalog.list,filter_flatMap]
 refine flatMap_congr fun oth _=>?_
 split
 · next heq=>
   subst heq
   refine filter_eq_self.mpr fun i hi=>?_
   simpa using (h.mem_marketInstruments.mp hi).2.2
 · next hne=>
   refine filter_eq_nil_iff.mpr fun i hi=>?_
   have howne:=(h.mem_marketInstruments.mp hi).2.2
   simpa[howne] using hne

theorem Owned.same {c':Catalog} (h:Owned c) (h':Owned c') (hlist:c'.byMarket market=c.byMarket market)
 (hrows:∀ id∈c.byMarket market,c'.instruments id=c.instruments id):Same c c' market:=by
 have hmk:c'.marketInstruments market=c.marketInstruments market:=by
  grind [Catalog.marketInstruments,map_congr_left]
 refine ⟨fun id hid=>get_congr (hrows id hid),hmk,fun venue product=>?_⟩
 rw[h.filter_list,h'.filter_list,hmk]

end

/-! ## One event -/

section
variable {sort:SliceSort idLess} {c:Catalog} {event:Event}

theorem Owned.apply (h:Owned c) (hcla:NoClash c event):Owned (c.apply sort event):=by
 cases event with
 | publish market ntv=>
  exact h.replace belongs_unique (projectAll_belongs market ntv) (sort.perm _) (projectAll_nodup market ntv)
   hcla
 | fail=>exact h

theorem Owned.same_apply (h:Owned c) (hcla:NoClash c event) {other:Market} (hoth:other≠event.market):
 Same c (c.apply sort event) other:=by
 have h':Owned (c.apply sort event):=h.apply hcla
 cases event with
 | publish market ntv=>
  have hlist:(c.publish sort market ntv).byMarket other=c.byMarket other:=
   Function.update_of_ne hoth _ c.byMarket
  exact h.same h' hlist fun id hid=>h.row_replace belongs_unique hcla hoth hid
 | fail=>exact h.same h' rfl fun _ _=>rfl

theorem noClash_of_sound (h:Sound (c.apply sort event)):NoClash c event:=by
 cases event with
 | publish market ntv=>
  have hunique {i:Instrument} {o o':Market} (ho:marketOf i.native=some o)
   (ho':marketOf i.native=some o'):o=o':=Option.some.inj (ho.symm.trans ho')
  show Directory.Fresh Instrument.id c.directory market (projectAll market ntv)
  refine Directory.fresh_of_listed (fun o i=>marketOf i.native=some o) (@hunique)
   (fun i hi=>(projectAll_belongs market ntv i hi).2) (projectAll_nodup market ntv)
   (sort.sort ((projectAll market ntv).map (·.id))) ?_
  intro o id hid
  obtain ⟨i,hget,howne⟩:=h.mapped o id hid
  exact ⟨i,get_eq_ok_iff.mp hget,howne⟩
 | fail=>trivial

theorem Owned.serves_iff (h:Owned c):Serves sort c event ↔ NoClash c event:=by
 constructor
 · intro hser
   exact noClash_of_sound hser.1
 · intro hcla
   exact ⟨(h.apply hcla).sound,fun oth hoth=>h.same_apply hcla hoth⟩

end

theorem owned_empty:Owned {} where
 row_of_listed hk:=absurd hk not_mem_nil
 listed_of_row hrow:=absurd hrow (by simp[Catalog.directory])
 nodup _:=nodup_nil

/-- Every listed id is served along a run exactly when markets do not share ids. -/
theorem serves_along_iff (sort:SliceSort idLess) (events:List Event):
 Along (step sort) (Serves sort) {} events ↔ Along (step sort) NoClash {} events:=by
 refine (along_congr_of_invariant Owned ?_ (fun c event _ hc=>hc.serves_iff.symm) owned_empty).symm
 intro c event next hc hcla hstep
 cases hstep
 exact hc.apply hcla

namespace Scenario

def idSort:SliceSort idLess:=SliceSort.byKey idLess id fun _ _=>rfl
def usdt:Market:=⟨.bybit,.perp,"USDT"⟩
def usdc:Market:=⟨.bybit,.perp,"USDC"⟩

def perpetual (settlement:String):Exchange.Instrument:=
 {identity:=
   { venue:=.bybit,product:=.perp,symbol:="BTC-USD",baseAsset:="BTC",quoteAsset:="USD"
     settleAsset:=settlement,nativeSymbol:="BTCUSD" ++ settlement}}

def both:List Event:=[.publish usdt [perpetual "USDT"],.publish usdc [perpetual "USDC"]]

end Scenario

theorem settlements_overwrite_each_other :
 (∃ c,run (step Scenario.idSort) {} Scenario.both=some c∧
  c.byMarket Scenario.usdt=["bybit:perp:BTC-USD"]∧
  c.marketInstruments Scenario.usdt=[project (Scenario.perpetual "USDC")]∧
  marketOf (Scenario.perpetual "USDC")=some Scenario.usdc)∧
 ∃ c,run (step Scenario.idSort) {} (Scenario.both++[.publish Scenario.usdt []])=some c∧
  c.byMarket Scenario.usdc=["bybit:perp:BTC-USD"]∧
  c.get "bybit:perp:BTC-USD" = .error "unknown instrument: bybit:perp:BTC-USD"∧
  c.marketInstruments Scenario.usdc=[{}]:=
 ⟨⟨_,rfl,by decide,by decide,by decide⟩,⟨_,rfl,by decide,by decide,by decide⟩⟩

end BolterTrader.Gateway.InstrumentCatalog
