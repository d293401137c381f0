import BolterTrader.Adapters.BybitFunding
import BolterTrader.Exchange.MemoryCatalog

/-! The funding history of an instrument (`factoryclient/funding_history.go`): the points of
a venue's reply in order of their times, one for each time, with the interval since the
point before and cut to the window last. -/
namespace BolterTrader.Adapters.FundingHistory
open Foundations Exchange BybitFunding List

structure FundingHistoryPoint where
 fundingTime:Int
 rate:Decimal
 intervalHours:Option Int64:=none

structure FundingHistoryRequest where
 scope:MemoryCatalog.CatalogScope:={}
 symbol:String:=""
 since:Int:=zeroTime
 till:Int:=zeroTime

structure FundingHistorySnapshot where
 schemaVersion:ℕ:=1
 scope:MemoryCatalog.CatalogScope
 symbol:String
 observedAt:Int
 points:List FundingHistoryPoint

-- the sorted part stands last point first, as the inner loop walks it
def sortFundingHistoryPoints (points:List FundingHistoryPoint):List FundingHistoryPoint:=
 (points.foldl (fun sorted current=>sorted.orderedInsert (fun p q=>q.fundingTime≤p.fundingTime) current) []).reverse

def dedupe (last:Option Int):List FundingHistoryPoint→List FundingHistoryPoint
 | []=>[]
 | point::rest=>
  if last.any (point.fundingTime ≤ ·) then dedupe last rest else point::dedupe (some point.fundingTime) rest

def measured (interval:Int→Int→Option Int64) (previous:Option Int):
  List FundingHistoryPoint→List FundingHistoryPoint
 | []=>[]
 | point::rest=>
  {point with intervalHours:=point.intervalHours.or (previous.bind (interval · point.fundingTime))} ::
   measured interval (some point.fundingTime) rest

/-- The gap of two settlements in hours, when it is a whole number of hours up to a hundredth. `Sub` saturates at
the ends of `int64`, and the hours are computed in `float64`. -/
def fundingHistoryInterval (previous current : Int) : Option Int64 :=
  let gap : Int := max (-9223372036854775808) (min 9223372036854775807 (current - previous))
  let hours := Float.ofInt (gap.tdiv 3600000000000) + Float.ofInt (gap.tmod 3600000000000) / 3600000000000
  let rounded := hours.round
  if rounded < 1 || (hours - rounded).abs > 0.01 then none else some rounded.toInt64

def FundingHistoryRequest.keeps (request:FundingHistoryRequest) (point:FundingHistoryPoint):Bool:=
 (request.since=zeroTime || request.since≤point.fundingTime) &&
  (request.till=zeroTime || point.fundingTime≤request.till)

def fundingHistorySnapshot (request:FundingHistoryRequest) (now:Int)
  (points:List FundingHistoryPoint):FundingHistorySnapshot where
 scope:=request.scope
 symbol:=request.symbol
 observedAt:=now
 points:=
  let ordered:=sortFundingHistoryPoints (points.filter fun point=>point.fundingTime≠zeroTime)
  (measured fundingHistoryInterval none (dedupe none ordered)).filter request.keeps

section
variable {points:List FundingHistoryPoint} {interval:Int→Int→Option Int64}

/-! ## Sorting -/

theorem sort_eq (points:List FundingHistoryPoint):
 sortFundingHistoryPoints points =
  (points.reverse.insertionSort fun p q=>q.fundingTime≤p.fundingTime).reverse:=by
 rw[insertionSort,foldr_reverse]
 rfl

theorem sort_pairwise (points:List FundingHistoryPoint):
 (sortFundingHistoryPoints points).Pairwise fun p q=>p.fundingTime≤q.fundingTime:=by
 have:Std.Total fun p q : FundingHistoryPoint=>q.fundingTime≤p.fundingTime:=⟨fun _ _=>Int.le_total _ _⟩
 have:IsTrans FundingHistoryPoint fun p q=>q.fundingTime≤p.fundingTime:=⟨fun _ _ _ h h'=>h'.trans h⟩
 rw[sort_eq,pairwise_reverse]
 exact pairwise_insertionSort _ _

theorem sort_find (points:List FundingHistoryPoint) (t:Int):
 (sortFundingHistoryPoints points).find? (·.fundingTime=t)=points.find? (·.fundingTime=t):=by
 -- the sort is stable: the points of one time keep their order
 have hsame:(points.reverse.filter (·.fundingTime=t)).Pairwise fun p q=>q.fundingTime≤p.fundingTime:=
  pairwise_of_forall_mem_list fun p hp q hq=>by simp_all
 have hsub:=(sublist_insertionSort hsame filter_sublist).filter (·.fundingTime=t)
 have hperm:=(perm_insertionSort (fun p q:FundingHistoryPoint=>q.fundingTime≤p.fundingTime) points.reverse).filter
  (·.fundingTime=t)
 rw[filter_filter] at hsub
 simp only[Bool.and_self] at hsub
 have heq:=hsub.eq_of_length hperm.length_eq.symm
 rw[←head?_filter,←head?_filter,sort_eq,filter_reverse,←heq,←filter_reverse,reverse_reverse]

/-! ## One point for each time -/

theorem dedupe_spec {last:Option Int} (hsor:points.Pairwise fun p q=>p.fundingTime≤q.fundingTime)
 (hlast:∀ t∈last,∀ p∈points,t≤p.fundingTime):
 (dedupe last points).Pairwise (fun p q=>p.fundingTime<q.fundingTime)∧
  ∀ p,p∈dedupe last points ↔ (∀ t∈last,t<p.fundingTime)∧
   points.find? (·.fundingTime=p.fundingTime)=some p:=by
 induction points generalizing last with
 | nil=>simp[dedupe]
 | cons x rest ih=>
  obtain ⟨hfst,hrest⟩:=pairwise_cons.mp hsor
  rw[dedupe]
  split
  next hskip=>
   obtain _ | t:=last
   · cases hskip
   have hle:x.fundingTime≤t:=of_decide_eq_true hskip
   have heq:x.fundingTime=t:=by
    have:=hlast t rfl x mem_cons_self
    omega
   grind
  next hkeep=>
   have hlat:∀ t∈last,t<x.fundingTime:=by
    rintro t rfl
    simpa using hkeep
   have hnext:∀ t∈some x.fundingTime,∀ p∈rest,t≤p.fundingTime:=by simpa using hfst
   obtain ⟨hpai,hmem⟩:=ih hrest hnext
   refine ⟨pairwise_cons.mpr ⟨fun p hp=>((hmem p).mp hp).1 _ rfl,hpai⟩,fun p=>?_⟩
   grind

/-! ## Intervals -/

def previousTime (times:List Int) (t:Int):Option Int:=(times.filter (· < t)).max?

def complete (interval:Int→Int→Option Int64) (times:List Int) (p:FundingHistoryPoint):FundingHistoryPoint:=
 {p with intervalHours:=p.intervalHours.or ((previousTime times p.fundingTime).bind (interval · p.fundingTime))}

theorem previousTime_congr {tms tms':List Int} {t:Int} (h:∀ u<t,u∈tms ↔ u∈tms'):
 previousTime tms t=previousTime tms' t:=by
 have hmem:∀ u,u∈tms.filter (· < t) ↔ u∈tms'.filter (· < t):=by
  grind
 unfold previousTime
 cases hmax : (tms'.filter (· < t)).max? with
 | none=>
  rw[max?_eq_none_iff,eq_nil_iff_forall_not_mem] at hmax ⊢
  grind
 | some u=>
  rw[max?_eq_some_iff] at hmax ⊢
  grind

theorem measured_eq {bef:List Int} (hsor:points.Pairwise fun p q=>p.fundingTime<q.fundingTime)
 (hbef:∀ u∈bef,∀ p∈points,u<p.fundingTime):
 measured interval bef.max? points =
  points.map (complete interval (bef++points.map (·.fundingTime))):=by
 induction points generalizing bef with
 | nil=>rfl
 | cons x rest ih=>
  obtain ⟨hfst,hrest⟩:=pairwise_cons.mp hsor
  have hbel:∀ u∈bef,u<x.fundingTime:=fun u hu=>hbef u hu x mem_cons_self
  have hmax:(bef++[x.fundingTime]).max?=some x.fundingTime:=by
   rw[max?_eq_some_iff]
   grind
  have hpre:previousTime (bef++(x::rest).map (·.fundingTime)) x.fundingTime=bef.max?:=by
   rw[previousTime,filter_append,filter_eq_self.mpr (by simpa using hbel),filter_eq_nil_iff.mpr,append_nil]
   grind
  grind [measured,complete]

/-! ## The snapshot -/

/-- A snapshot lists the first point of each time of the reply that lies in the window, in the order of the times,
each with the interval since the last time before it. -/
theorem fundingHistorySnapshot_shows (request:FundingHistoryRequest) (now:Int)
 (points:List FundingHistoryPoint):
 (fundingHistorySnapshot request now points).points.Pairwise (fun p q=>p.fundingTime<q.fundingTime)∧
  ∀ shown,shown∈(fundingHistorySnapshot request now points).points ↔
   ∃ p,points.find? (·.fundingTime=p.fundingTime)=some p∧p.fundingTime≠zeroTime∧
    (request.since=zeroTime∨request.since≤p.fundingTime)∧
    (request.till=zeroTime∨p.fundingTime≤request.till)∧
    shown=complete fundingHistoryInterval ((points.map (·.fundingTime)).filter (· ≠ zeroTime)) p:=by
 obtain ⟨hpai,hmem⟩:=dedupe_spec (sort_pairwise (points.filter fun p=>p.fundingTime≠zeroTime))
  (show ∀ t∈none,_ from nofun)
 generalize hded : dedupe none (sortFundingHistoryPoints (points.filter fun p=>p.fundingTime≠zeroTime))=deduped
  at hpai hmem
 have hfst:∀ p,p∈deduped ↔
   points.find? (·.fundingTime=p.fundingTime)=some p∧p.fundingTime≠zeroTime:=by
  intro p
  rw[hmem,sort_find]
  constructor
  · grind
  · grind
 have htim:∀ u,u∈deduped.map (·.fundingTime) ↔ u∈(points.map (·.fundingTime)).filter (· ≠ zeroTime):=by
  intro u
  simp only[mem_map,mem_filter,decide_eq_true_eq]
  constructor
  · grind
  · rintro ⟨⟨x,hx,rfl⟩,hzero⟩
    have hsome:(points.find? (·.fundingTime=x.fundingTime)).isSome:=find?_isSome.mpr ⟨x,hx,by simp⟩
    obtain ⟨p,hp⟩:=Option.isSome_iff_exists.mp hsome
    have htime:p.fundingTime=x.fundingTime:=by simpa using find?_some hp
    exact ⟨p,(hfst p).mpr (htime▸⟨hp,hzero⟩),htime⟩
 have hmea:measured fundingHistoryInterval none deduped =
   deduped.map (complete fundingHistoryInterval ((points.map (·.fundingTime)).filter (· ≠ zeroTime))):=by
  refine (@measured_eq deduped fundingHistoryInterval [] hpai nofun).trans (map_congr_left fun p _=>?_)
  rw[complete,complete,nil_append,previousTime_congr fun u _=>htim u]
 simp only[fundingHistorySnapshot,hded,hmea,mem_filter,mem_map]
 constructor
 · apply Pairwise.sublist filter_sublist
   exact pairwise_map.mpr hpai
 · intro shown
   constructor
   · rintro ⟨⟨p,hp,rfl⟩,hkee⟩
     obtain ⟨hfind,hzero⟩:=(hfst p).mp hp
     simp only[FundingHistoryRequest.keeps,Bool.and_eq_true,Bool.or_eq_true,decide_eq_true_eq] at hkee
     exact ⟨p,hfind,hzero,hkee.1,hkee.2,rfl⟩
   · rintro ⟨p,hfind,hzero,hsin,htill,rfl⟩
     refine ⟨⟨p,(hfst p).mpr ⟨hfind,hzero⟩,rfl⟩,?_⟩
     simp only[FundingHistoryRequest.keeps,Bool.and_eq_true,Bool.or_eq_true,decide_eq_true_eq]
     exact ⟨hsin,htill⟩

end

end BolterTrader.Adapters.FundingHistory
