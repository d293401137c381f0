import BolterTrader.Adapters.AccountEvents
import BolterTrader.Gateway.Catalog

/-! Native names and gateway ids (`gateway/market/catalog.go`, `gateway/account/runtime.go`):
rows read over REST get their instrument from a scan of the market, rows of the private
stream from the index built over the same market. -/
namespace BolterTrader.Gateway.InstrumentCatalog
open Foundations Foundations.Transition Exchange Adapters List Option

namespace Catalog

def resolveNative (c:Catalog) (market:Market) (nativeSymbol nativeId:String):Option Instrument:=
 (c.marketInstruments market).find? fun i=>
  (nativeId≠""∧i.native.identity.nativeId=nativeId)∨
   (nativeSymbol≠""∧i.native.identity.nativeSymbol=nativeSymbol)

def accountInstruments (c:Catalog) (market:Market):List AccountInstrument:=
 (c.marketInstruments market).map fun i=>⟨i.id,i.native⟩

end Catalog

theorem resolveNative_eq_some {c:Catalog} {market:Market} {nsy nid:String} {i:Instrument}
 (h:c.resolveNative market nsy nid=some i):
 i∈c.marketInstruments market∧((nid≠""∧i.native.identity.nativeId=nid)∨
  (nsy≠""∧i.native.identity.nativeSymbol=nsy)):=
 ⟨mem_of_find?_eq_some h,by simpa using List.find?_some h⟩

abbrev Keyed (c:Catalog):Prop:=Directory.Keyed Instrument.id c.instruments

theorem Keyed.apply {c:Catalog} (h:Keyed c) (sort:SliceSort idLess) (ev:Event):
 Keyed (c.apply sort ev):=by
 cases ev with
 | publish=>exact (h.deleteAll _).putAll _
 | fail=>exact h

theorem keyed_run {sort:SliceSort idLess} {evs:List Event} {c:Catalog}
 (h:run (step sort) {} evs=some c):Keyed c:=by
 have hstrt:Keyed {}:=fun _ _ hrow=>nomatch hrow
 refine invariant Keyed ?_ hstrt h
 intro bef ev aft hbef hstep
 cases hstep
 exact hbef.apply sort ev

section
variable {c:Catalog} {market:Market} {index:AccountInstrumentIndex} {i j:Instrument}

theorem validate_zero:(({}:Instrument).native.validate).isSome:=by decide

theorem Keyed.stored (h:Keyed c) (hi:i∈c.marketInstruments market) (hval:i.native.validate=none):
 c.instruments i.id=some i:=by
 obtain ⟨id,-,rfl⟩:=mem_map.mp hi
 cases hrow : c.instruments id with
 | none=>
  grind [validate_zero]
 | some row=>
  rw[getD_some,h id row hrow]
  exact hrow

theorem Keyed.eq_of_id (h:Keyed c) (hi:i∈c.marketInstruments market) (hj:j∈c.marketInstruments market)
 (hval:i.native.validate=none) (hvl':j.native.validate=none) (hid:j.id=i.id):j=i:=by
 have hrow:=h.stored hj hvl'
 rw[hid,h.stored hi hval] at hrow
 exact (some.inj hrow).symm

theorem entered_of_listed {venue:Venue} {prod:Product}
 (hacc:AccountInstrumentIndex.ofInstruments venue prod (c.accountInstruments market)=.ok index)
 (hi:i∈c.marketInstruments market):AccountInstrumentIndex.Entered ⟨i.id,i.native⟩ index:=
 AccountInstrumentIndex.ofInstruments_eq_ok hacc _ (mem_map_of_mem hi)

theorem lookup_of_entered (h:AccountInstrumentIndex.Entered ⟨i.id,i.native⟩ index):
 index.lookup i.native.identity.nativeSymbol=some i.id∧
  (i.native.identity.nativeId≠"" → index.lookup i.native.identity.nativeId=some i.id):=by
 obtain ⟨hsym,hid⟩:=Instrument.native_trimmed_of_validate h.valid
 have hbySy:=h.bySymbol
 have hbyId:=h.byId
 grind

end

/-- Both lookups of a native pair find the same instrument. -/
theorem resolveNative_agrees_with_index (sort:SliceSort idLess) (events:List Event) (c:Catalog)
 (hrun:run (step sort) {} events=some c) (market:Market) (venue:Venue) (product:Product)
 (index:AccountInstrumentIndex)
 (haccepted:AccountInstrumentIndex.ofInstruments venue product (c.accountInstruments market)=.ok index)
 (i:Instrument) (hi:i∈c.marketInstruments market) (nativeSymbol nativeId:String)
 (hsymbol:nativeSymbol=i.native.identity.nativeSymbol∨nativeSymbol="")
 (hid:nativeId=i.native.identity.nativeId∨nativeId="") (hnamed:nativeSymbol≠""∨nativeId≠""):
 c.resolveNative market nativeSymbol nativeId=some i∧index.resolve nativeSymbol nativeId=some i.id:=by
 have hent:=entered_of_listed haccepted hi
 obtain ⟨hbySy,hbyId⟩:=lookup_of_entered hent
 obtain ⟨htrSy,htrId⟩:=Instrument.native_trimmed_of_validate hent.valid
 refine ⟨?_,?_⟩
 · have hfd:(c.resolveNative market nativeSymbol nativeId).isSome:=by
    rw[Catalog.resolveNative,List.find?_isSome]
    refine ⟨i,hi,decide_eq_true ?_⟩
    obtain hne | hne:=hnamed
    · grind
    · grind
   obtain ⟨j,hj⟩:=isSome_iff_exists.mp hfd
   obtain ⟨hmem,hm⟩:=resolveNative_eq_some hj
   have hent':=entered_of_listed haccepted hmem
   obtain ⟨hbySy',hbyId'⟩:=lookup_of_entered hent'
   have hsame:j.id=i.id:=by
    -- the name the scan stopped at is one that the index gives to a single id
    grind
   rw[hj,(keyed_run hrun).eq_of_id hi hmem hent.valid hent'.valid hsame]
 · by_cases hbla:nativeId=""
   · have hown:=hsymbol.resolve_right (hnamed.resolve_right (not_not.mpr hbla))
     have htrim:GoText.trimSpace "" = "" := by decide
     grind [AccountInstrumentIndex.resolve,AccountInstrumentIndex.lookup_blank]
   all_goals grind [AccountInstrumentIndex.resolve]

namespace Scenario

def numbered (symbol nativeSymbol nativeId:String):Exchange.Instrument:=
 { identity:=
    { venue:=.bybit,product:=.perp,symbol,baseAsset:=symbol,quoteAsset:="USDT"
      settleAsset:="USDT",nativeSymbol,nativeId}
   rules:={priceIncrement:=⟨1,-1⟩,quantityIncrement:=⟨1,-3⟩}}

def twoNumbered:List Event:=[.publish usdt [numbered "BTC" "BTCUSDT" "1",numbered "ETH" "ETHUSDT" "2"]]
def twoListed:Catalog:=twoNumbered.foldl (Catalog.apply idSort) {}

end Scenario

theorem numbered_perpetual_resolved :
  ∃ index,run (step Scenario.idSort) {} Scenario.twoNumbered=some Scenario.twoListed∧
   AccountInstrumentIndex.ofInstruments .bybit .perp (Scenario.twoListed.accountInstruments Scenario.usdt) =
    .ok index∧
   Scenario.twoListed.resolveNative Scenario.usdt "ETHUSDT" "" =
    some (project (Scenario.numbered "ETH" "ETHUSDT" "2"))∧
   index.resolve "ETHUSDT" "" = some "bybit:perp:ETH" := by
 have hacc:(AccountInstrumentIndex.ofInstruments .bybit .perp
  (Scenario.twoListed.accountInstruments Scenario.usdt)).toBool=true:=by decide
 cases hind : AccountInstrumentIndex.ofInstruments .bybit .perp
  (Scenario.twoListed.accountInstruments Scenario.usdt) with
 | error err=>
  rw[hind] at hacc
  cases hacc
 | ok index=>
  have hrun:run (step Scenario.idSort) {} Scenario.twoNumbered=some Scenario.twoListed:=rfl
  exact ⟨index,hrun,rfl,resolveNative_agrees_with_index _ _ _ hrun _ _ _ index hind
   (project (Scenario.numbered "ETH" "ETHUSDT" "2")) (by decide) "ETHUSDT" "" (.inl (by decide)) (.inr rfl)
   (.inl (by decide))⟩

end BolterTrader.Gateway.InstrumentCatalog
