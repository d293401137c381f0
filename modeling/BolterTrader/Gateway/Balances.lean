import BolterTrader.Adapters.LighterAccount
import BolterTrader.Foundations.Transition
import BolterTrader.Gateway.AccountState

/-! The balances of a market as a map from asset to row. -/
namespace BolterTrader.Gateway
open Foundations Foundations.KeyedRows Exchange List

abbrev BalanceMap:=String→Option BalanceRow
def balanceMap (rows:List BalanceRow):BalanceMap:=last? BalanceRow.asset rows
def listedBalance (event:BalanceEvent) (asset:String):Option Balance:=last? Balance.asset event.balances asset

def balanceRow (market:Market) (item:Balance):Option BalanceRow:=
 if isEmptyBalance item then none else some (projectBalance market item)

/-! ## What an event does -/

variable {sort:SliceSort balanceLess} {market:Market} {rows:List BalanceRow}

theorem balanceMap_setBalance (item:Balance) (asset:String):balanceMap (setBalance market rows item) asset =
 if item.asset=asset then balanceRow market item else balanceMap rows asset:=by
 unfold setBalance balanceMap balanceRow
 split
 · rw[last?_erase]
   grind
 · rw[last?_put]
   rfl

theorem unique_setBalance (h:Unique BalanceRow.asset rows) (item:Balance):
 Unique BalanceRow.asset (setBalance market rows item):=by
 unfold setBalance
 split
 · exact h.erase item.asset
 · exact h.put (projectBalance market item)

theorem balanceMap_foldl_setBalance (its:List Balance) (asset:String):
  balanceMap (its.foldl (setBalance market) rows) asset =
   match last? Balance.asset its asset with
   | some item=>balanceRow market item
   | none=>balanceMap rows asset:=by
 induction its using List.reverseRecOn with
 | nil=>rfl
 | append_singleton rest item ih=>
  rw[foldl_append,foldl_cons,foldl_nil,balanceMap_setBalance,ih,last?_concat]
  grind

theorem unique_foldl {τ:Type} {wrt:List BalanceRow→τ→List BalanceRow}
 (hwrit:∀ {rows} item,Unique BalanceRow.asset rows→Unique BalanceRow.asset (wrt rows item))
 (its:List τ) (h:Unique BalanceRow.asset rows):Unique BalanceRow.asset (its.foldl wrt rows):=by
 induction its generalizing rows with
 | nil=>exact h
 | cons item rest ih=>exact ih (hwrit item h)

theorem balanceMap_stored (current:List BalanceRow):
 balanceMap (current.foldl (put BalanceRow.asset) [])=balanceMap current:=by
 funext asset
 unfold balanceMap
 induction current using List.reverseRecOn with
 | nil=>rfl
 | append_singleton rest row ih=>rw[foldl_append,foldl_cons,foldl_nil,last?_put,ih,last?_concat]

theorem unique_byAsset (current:List BalanceRow) (ev:BalanceEvent):Unique BalanceRow.asset
 (ev.balances.foldl (setBalance market) (current.foldl (put BalanceRow.asset) [])):=by
 apply unique_foldl fun item h=>unique_setBalance h item
 exact unique_foldl (fun row h=>h.put row) current nodup_nil

theorem unique_foldBalances (ev:BalanceEvent):
 Unique BalanceRow.asset (foldBalances sort market rows ev):=
 (unique_byAsset rows ev).perm (sort.perm _)

theorem balanceMap_foldBalances (ev:BalanceEvent) (asset:String):
  balanceMap (foldBalances sort market rows ev) asset =
   match listedBalance ev asset with
   | some item=>balanceRow market item
   | none=>balanceMap rows asset:=by
 have hsor:balanceMap (foldBalances sort market rows ev) asset=_:=
  (unique_byAsset rows ev).last?_perm (sort.perm _) asset
 rw[hsor,←balanceMap_stored rows]
 exact balanceMap_foldl_setBalance ev.balances asset

/-! ## What an event should do -/

structure BalancesFollow (market:Market) (before:List BalanceRow) (event:BalanceEvent)
  (after:List BalanceRow):Prop where
 snapshot:event.kind=.snapshot →
  ∀ asset,balanceMap after asset=(listedBalance event asset).bind (balanceRow market)
 delta:event.kind=.delta → ∀ asset,balanceMap after asset =
  match listedBalance event asset with
  | some item=>balanceRow market item
  | none=>balanceMap before asset
 unique:Unique BalanceRow.asset after
 sorted:SortedBy balanceLess after

def CoversStored (rows:List BalanceRow) (event:BalanceEvent):Prop:=
 event.kind=.snapshot → ∀ row∈rows,∃ item∈event.balances,item.asset=row.asset

theorem listedBalance_eq_none_iff {ev:BalanceEvent} {asset:String}:
 listedBalance ev asset=none ↔ ¬∃ item∈ev.balances,item.asset=asset:=by
 rw[listedBalance,last?_eq_none_iff]
 push Not
 rfl

theorem balancesFollow_iff (event:BalanceEvent):
 BalancesFollow market rows event (foldBalances sort market rows event) ↔ CoversStored rows event:=by
 constructor
 · intro hfol hkind row hrow
   by_contra hmis
   -- The row of a stored asset that the snapshot does not list is still there.
   have haf:=hfol.snapshot hkind row.asset
   rw[balanceMap_foldBalances,listedBalance_eq_none_iff.mpr hmis] at haf
   exact last?_eq_none_iff.mp haf row hrow rfl
 · intro hcov
   refine ⟨?_,fun _ ass=>balanceMap_foldBalances event ass,unique_foldBalances event,sort.sorted _⟩
   intro hkind ass
   rw[balanceMap_foldBalances]
   cases hlis : listedBalance event ass with
   | some=>rfl
   | none=>
    refine last?_eq_none_iff.mpr ?_
    rintro row hrow rfl
    exact listedBalance_eq_none_iff.mp hlis (hcov hkind row hrow)

/-! ## Runs -/

def balanceStep (sort:SliceSort balanceLess) (market:Market) (rt:Runtime) (event:BalanceEvent):
 Option Runtime:=
 some (rt.applyBalanceEvent sort market event)

theorem balances_applyBalanceEvent (sort:SliceSort balanceLess) (market:Market) (rt:Runtime)
 (event:BalanceEvent):(rt.applyBalanceEvent sort market event).balances market =
  foldBalances sort market (rt.balances market) event:=
 Function.update_self _ _ _

/-- The balances follow a run of events exactly when every snapshot names all stored assets. -/
theorem balances_follow_events_iff (sort:SliceSort balanceLess) (market:Market) (rt:Runtime)
 (events:List BalanceEvent):
 Transition.Along (balanceStep sort market) (fun rt event=>BalancesFollow market (rt.balances market) event
  ((rt.applyBalanceEvent sort market event).balances market)) rt events ↔
 Transition.Along (balanceStep sort market) (fun rt event=>CoversStored (rt.balances market) event)
  rt events:=by
 apply Transition.along_congr
 intro rt event
 rw[balances_applyBalanceEvent]
 exact balancesFollow_iff event

/-! ## Lighter -/

open Adapters.Lighter ExactLookup

def lighterSpot:Market:={venue:=.lighter,product:=.spot}

def usdcAndEth:BalanceEvent:=
 { kind:=.snapshot
   balances:=
    [{asset:="USDC",available:=⟨100,0⟩,locked:=.zero,total:=⟨100,0⟩},
      {asset:="ETH",available:=⟨2,0⟩,locked:=.zero,total:=⟨2,0⟩}]}

def usdcOnly:BalanceEvent:=
 { kind:=.snapshot
   balances:=[{asset:="USDC",available:=⟨7100,0⟩,locked:=.zero,total:=⟨7100,0⟩}]}

theorem sold_asset_still_listed :
 allAssetsEvent asciiLibrary .spot "WatchAccountEvents"
  [some {symbol:="USDC",balance:="100" },some {symbol:="ETH",balance:="2" }]=.ok usdcAndEth∧
 allAssetsEvent asciiLibrary .spot "WatchAccountEvents"
  [some {symbol:="USDC",balance:="7100" }]=.ok usdcOnly∧
 ((((({ }:Runtime).applyBalanceEvent sortBalances lighterSpot usdcAndEth).applyBalanceEvent sortBalances
  lighterSpot usdcOnly).balances lighterSpot).map fun row=>(row.asset,row.total)) =
   [("ETH","2"),("USDC","7100")]∧
 ¬Transition.Along (balanceStep sortBalances lighterSpot) (fun rt event=>
  BalancesFollow lighterSpot (rt.balances lighterSpot) event
   ((rt.applyBalanceEvent sortBalances lighterSpot event).balances lighterSpot)) { } [usdcAndEth,usdcOnly]:=by
 refine ⟨by rfl,by rfl,by decide,?_⟩
 rintro ⟨-,hrest⟩
 have hsec:=(hrest _ rfl).1.snapshot rfl "ETH"
 exact absurd hsec (by decide)

end BolterTrader.Gateway
