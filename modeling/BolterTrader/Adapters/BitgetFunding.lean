import BolterTrader.Adapters.BybitFunding
import BolterTrader.Foundations.Paging

/-! The funding rates of the Bitget perpetual client (`bitgetBase.FundingRateHistory` in
`bybit_bitget.go`). -/
namespace BolterTrader.Adapters.BitgetFunding
open Foundations Foundations.Fallible Foundations.Paging List
open BybitFunding (milli zeroTime withinHalfOpen)
open BybitBitget (parseRequiredMilli parseRequiredDecimal)

def operation:String:="FundingRateHistory"

structure Request where
 cursor:String:=""
 limit:Int
 start:Int:=zeroTime
 finish:Int:=zeroTime

structure HistoryFundRateEntry where
 fundingRate:String
 fundingTime:String

structure FundingRate where
 nativeSymbol:String
 rate:Decimal
 fundingTime:Int

structure FundingRatePage where
 rates:List FundingRate
 limit:Int
 windowStart:Int
 windowEnd:Int

section
variable (client:ClientMeta) (native:String) (venue:ℕ→ℕ→Except NativeError (List HistoryFundRateEntry)) (r:Request)

def validateFundingHistoryRequest:Except NativeError Unit:=do
 let invalid message:=newError .invalidRequest
  {venue:=client.venue,product:=client.product,operation,safeMessage:=message}
 refuse (r.limit<0) (invalid "limit must be non-negative")
 refuse (r.cursor≠"") (invalid "cursor is not supported")
 refuse (r.start≠zeroTime∧r.finish≠zeroTime∧¬r.start<r.finish) (invalid "end must be after start")

def resultLimit:ℕ:=if r.limit≤0 then 20 else r.limit.toNat
def pageSize:ℕ:=if r.start≠zeroTime∨r.finish≠zeroTime∨100<resultLimit r then 100 else resultLimit r

-- the rows of one page, with the room left in the result and the oldest time seen so far
def readRows (room:ℕ) (oldest:Option Int):
  List HistoryFundRateEntry→Except NativeError (List FundingRate×Option Int)
 | []=>.ok ([],oldest)
 | row::rest=>do
  let fundingTime ← parseRequiredMilli client operation "funding timestamp" row.fundingTime
  let oldest:=if oldest.all (fundingTime < ·) then some fundingTime else oldest
  if ¬withinHalfOpen fundingTime r.start r.finish then readRows room oldest rest
  else
   let rate ← parseRequiredDecimal client operation "funding rate" row.fundingRate
   let found : FundingRate:={nativeSymbol:=native,rate,fundingTime}
   if room≤1 then return ([found],oldest)
   else
    let (later,oldest) ← readRows (room-1) oldest rest
    return (found::later,oldest)

structure Progress where
 pageNo:ℕ:=1
 found:ℕ:=0

def readPage (s:Progress):Except NativeError (List FundingRate×Option Progress):=
 if resultLimit r≤ s.found then return ([],none)
 else do
  let rows ← venue (pageSize r) s.pageNo
  if rows=[] then return ([],none)
  else
   let (found,oldest) ← readRows client native r (resultLimit r-s.found) none rows
   if rows.length<pageSize r∨r.start≠zeroTime∧oldest.any (· ≤ r.start) then return (found,none)
   else return (found,some {pageNo:=s.pageNo+1,found:=s.found+found.length})

-- `none` when `pages` page requests do not end the loop
def fundingRateHistory (pages:ℕ):Except NativeError (Option FundingRatePage):=do
 validateFundingHistoryRequest client r
 let rates ← follow (readPage client native venue r) pages {}
 return rates.map fun rates=>{rates,limit:=r.limit,windowStart:=r.start,windowEnd:=r.finish}

end

/-! ## A venue that answers blocks of one list -/

section
variable {client:ClientMeta} {native:String} {venue:ℕ→ℕ→Except NativeError (List HistoryFundRateEntry)} {r:Request}
 {rate:HistoryFundRateEntry→FundingRate} {rows:List HistoryFundRateEntry}

structure Reads (client:ClientMeta) (native:String) (row:HistoryFundRateEntry) (rate:FundingRate):Prop where
 symbol:rate.nativeSymbol=native
 amount:parseRequiredDecimal client operation "funding rate" row.fundingRate=.ok rate.rate
 time:parseRequiredMilli client operation "funding timestamp" row.fundingTime=.ok rate.fundingTime

def inWindow (r:Request) (rate:HistoryFundRateEntry→FundingRate) (rows:List HistoryFundRateEntry):List FundingRate:=
 (rows.map rate).filter fun x=>withinHalfOpen x.fundingTime r.start r.finish

theorem readRows_eq (hreads:∀ row∈rows,Reads client native row (rate row))
 (hnewe:rows.Pairwise fun x y=>(rate y).fundingTime<(rate x).fundingTime) {room:ℕ} (hroom:1≤room)
 {oldest:Option Int} (holde:∀ t∈oldest,∀ row∈rows,(rate row).fundingTime<t):
 ∃ last,readRows client native r room oldest rows=.ok ((inWindow r rate rows).take room,last)∧
  ((inWindow r rate rows).length<room→ last=(rows.getLast?.map fun row=>(rate row).fundingTime).or oldest):=by
 induction rows generalizing room oldest with
 | nil=>exact ⟨oldest,by simp[readRows,inWindow],fun _=>rfl⟩
 | cons row rest ih=>
  obtain ⟨hrow,hrest⟩:=forall_mem_cons.mp hreads
  obtain ⟨hfst,hnewe⟩:=pairwise_cons.mp hnewe
  have hupd:(if oldest.all ((rate row).fundingTime < ·) then some (rate row).fundingTime else oldest) =
    some (rate row).fundingTime:=by
   apply if_pos
   cases oldest with
   | none=>rfl
   | some t=>simpa using holde t rfl row mem_cons_self
  have hlast:((row::rest).getLast?.map fun row=>(rate row).fundingTime).or oldest =
    (rest.getLast?.map fun row=>(rate row).fundingTime).or (some (rate row).fundingTime):=by
   rw[getLast?_cons]
   cases rest.getLast?<;>rfl
  have hnext:∀ t∈some (rate row).fundingTime,∀ other∈rest,(rate other).fundingTime<t:=by simpa using hfst
  have hfd:({nativeSymbol:=native,rate:=(rate row).rate,fundingTime:=(rate row).fundingTime}:FundingRate) =
    rate row:=by
   rw[←hrow.symbol]
  rw[hlast]
  simp only[readRows,hrow.time,hrow.amount,bind,Except.bind,hupd,hfd]
  by_cases hin:withinHalfOpen (rate row).fundingTime r.start r.finish=true
  · have hcons:inWindow r rate (row::rest)=rate row::inWindow r rate rest:=filter_cons_of_pos hin
    rw[if_neg (not_not.mpr hin),hcons]
    split
    next hone=>
     obtain rfl : room=1:=by omega
     exact ⟨_,rfl,fun hsho=>absurd hsho (by simp)⟩
    next hmore=>
     obtain ⟨last,hrows,hlast⟩:=@ih hrest hnewe (room-1) (by omega) _ hnext
     refine ⟨last,?_,fun hsho=>hlast ?_⟩
     · rw[hrows,←Nat.sub_add_cancel hroom,take_succ_cons]
       rfl
     · grind
  · have hcons:inWindow r rate (row::rest)=inWindow r rate rest:=filter_cons_of_neg hin
    rw[if_pos hin,hcons]
    exact ih hrest hnewe hroom hnext

theorem inWindow_append (rows more:List HistoryFundRateEntry):
 inWindow r rate (rows++more)=inWindow r rate rows++inWindow r rate more:=by
 rw[inWindow,map_append,filter_append]
 rfl

theorem inWindow_past {t:Int} (hstrt:r.start≠zeroTime) (ht:t≤r.start)
 (hpast:∀ row∈rows,(rate row).fundingTime<t):inWindow r rate rows=[]:=by
 rw[inWindow,filter_eq_nil_iff]
 intro x hx
 obtain ⟨row,hrow,rfl⟩:=mem_map.mp hx
 have:=hpast row hrow
 simp only[withinHalfOpen,hstrt,decide_false,Bool.false_or,Bool.and_eq_true,decide_eq_true_eq]
 omega

theorem pageSize_pos (r:Request):1≤pageSize r:=by
 grind [pageSize,resultLimit]

def left (r:Request) (list:List HistoryFundRateEntry) (s:Progress):List HistoryFundRateEntry:=
 list.drop ((s.pageNo-1)*pageSize r)

def due (r:Request) (rate:HistoryFundRateEntry→FundingRate) (list:List HistoryFundRateEntry) (s:Progress):
 List FundingRate:=
 (inWindow r rate (left r list s)).take (resultLimit r-s.found)

variable {list:List HistoryFundRateEntry}

theorem left_next {s:Progress} (hs:1≤ s.pageNo) (found:ℕ):
 left r list {pageNo:=s.pageNo+1,found}=(left r list s).drop (pageSize r):=by
 rw[left,left,drop_drop,←Nat.succ_mul]
 congr 2
 dsimp only
 omega

theorem readPage_spec (hven:∀ size page,1≤page→ venue size page=.ok ((list.drop ((page-1)*size)).take size))
 (hreads:∀ row∈list,Reads client native row (rate row))
 (hnewe:list.Pairwise fun x y=>(rate y).fundingTime<(rate x).fundingTime) (s:Progress) (hs:1≤ s.pageNo):
 readPage client native venue r s=.ok (due r rate list s,none)∨
  ∃ items next,readPage client native venue r s=.ok (items,some next)∧1≤next.pageNo∧
   items++due r rate list next=due r rate list s∧(left r list next).length<(left r list s).length:=by
 have hsize:=pageSize_pos r
 by_cases hfull:resultLimit r≤ s.found
 · left
   rw[readPage,if_pos hfull,due,Nat.sub_eq_zero_of_le hfull,take_zero]
   rfl
 generalize hleft : left r list s=rows
 have hpage:venue (pageSize r) s.pageNo=.ok (rows.take (pageSize r)):=(hven _ _ hs).trans (by rw[←hleft,left])
 by_cases hnone:rows.take (pageSize r)=[]
 · left
   have hnil:rows=[]:=(take_eq_nil_iff.mp hnone).resolve_left (by omega)
   simp[readPage,hfull,hpage,due,hleft,hnil,inWindow,bind,Except.bind]
   rfl
 have hsor:(rows.take (pageSize r)++rows.drop (pageSize r)).Pairwise fun x y=>(rate y).fundingTime<(rate x).fundingTime:=by
  rw[take_append_drop,←hleft]
  exact hnewe.sublist (drop_sublist _ _)
 have hread:∀ row∈rows.take (pageSize r),Reads client native row (rate row):=fun row hrow=>
  hreads row (mem_of_mem_drop (hleft▸mem_of_mem_take hrow))
 have hdue:due r rate list s=(inWindow r rate (rows.take (pageSize r))++inWindow r rate (rows.drop (pageSize r))).take
   (resultLimit r-s.found):=by
  rw[due,hleft,←inWindow_append,take_append_drop]
 obtain ⟨hnewe',-,hpast⟩:=pairwise_append.mp hsor
 obtain ⟨last,hrows,hlast⟩:=@readRows_eq client native r rate _ hread hnewe' (resultLimit r-s.found) (by omega) none nofun
 have hcall:readPage client native venue r s =
   if (rows.take (pageSize r)).length<pageSize r∨r.start≠zeroTime∧last.any (· ≤ r.start) then
    .ok ((inWindow r rate (rows.take (pageSize r))).take (resultLimit r-s.found),none)
   else .ok ((inWindow r rate (rows.take (pageSize r))).take (resultLimit r-s.found),
    some {pageNo:=s.pageNo+1,found:=s.found+((inWindow r rate (rows.take (pageSize r))).take (resultLimit r-s.found)).length}):=by
  simp only[readPage,hpage,bind,Except.bind,hrows]
  rw[if_neg hfull,if_neg hnone]
  rfl
 rw[hcall]
 split
 next hstop=>
  left
  congr 2
  rw[hdue,take_append]
  refine (append_right_eq_self.mpr ?_).symm
  by_cases hsho:(inWindow r rate (rows.take (pageSize r))).length<resultLimit r-s.found
  · have hend:inWindow r rate (rows.drop (pageSize r))=[]:=by
     obtain hstop | ⟨hstrt,hstop⟩:=hstop
     · rw[length_take] at hstop
       rw[drop_eq_nil_of_le (by omega)]
       rfl
     · rw[hlast hsho,getLast?_eq_some_getLast hnone] at hstop
       exact inWindow_past hstrt (of_decide_eq_true hstop) (hpast _ (getLast_mem hnone))
    rw[hend,take_nil]
  · rw[Nat.sub_eq_zero_of_le (by omega),take_zero]
 next hgo=>
  right
  refine ⟨_,_,rfl,by simp,?_,?_⟩
  · rw[hdue,due,left_next hs,hleft,take_append,length_take]
    congr 2
    dsimp only
    omega
  · rw[left_next hs,hleft,length_drop]
    have:=length_pos_iff.mpr hnone
    rw[length_take] at this
    omega

/-- The rates are the newest of the window, up to the limit. -/
theorem fundingRateHistory_eq {limit start finish:Int} (hlimit:0<limit)
 (hwindow:start=zeroTime∨finish=zeroTime∨start<finish)
 (hvenue:∀ size page,1≤page→ venue size page=.ok ((list.drop ((page-1)*size)).take size))
 (hreads:∀ row∈list,Reads client native row (rate row))
 (hnewest:list.Pairwise fun x y=>(rate y).fundingTime<(rate x).fundingTime):
 ∃ pages,fundingRateHistory client native venue {limit,start,finish} pages =
  .ok (some ⟨((list.map rate).filter fun x=>withinHalfOpen x.fundingTime start finish).take limit.toNat,
   limit,start,finish⟩):=by
 obtain ⟨pages,hpag⟩:=follow_complete _ (due {limit,start,finish} rate list) _
  (readPage_spec hvenue hreads hnewest) (s:={}) (Nat.le_refl 1)
 have hdue:due {limit,start,finish} rate list {} =
   ((list.map rate).filter fun x=>withinHalfOpen x.fundingTime start finish).take limit.toNat:=by
  simp[due,left,inWindow,resultLimit,not_le.mpr hlimit]
 have hval:validateFundingHistoryRequest client {limit,start,finish}=.ok ():=by
  unfold validateFundingHistoryRequest
  rw[refuse_bind (by simpa using hlimit.le),refuse_bind (by simp)]
  exact if_neg (by simp only; omega)
 refine ⟨pages,?_⟩
 rw[hdue] at hpag
 simp only[fundingRateHistory,hval,hpag,bind,Except.bind]
 rfl

end

def venueOf (list:List HistoryFundRateEntry) (size page:ℕ):Except NativeError (List HistoryFundRateEntry):=
 .ok ((list.drop ((page-1)*size)).take size)

/-- The rates of June, one every eight hours. -/
def juneTime (k : ℕ) : ℕ := 1751299200000 - 28800000 * k
def june : List HistoryFundRateEntry := (range 102).map fun k => ⟨"0.0001", toString (juneTime k : Int)⟩

def juneRate (row : HistoryFundRateEntry) : FundingRate :=
  ⟨"BTCUSDT", ⟨1, -4⟩, (Decimal.parseInt64? row.fundingTime).getD 0 * milli⟩

theorem juneRate_eq (k : ℕ) :
    juneRate ⟨"0.0001", toString (juneTime k : Int)⟩ = ⟨"BTCUSDT", ⟨1, -4⟩, juneTime k * milli⟩ := by
  rw [juneRate, Decimal.parseInt64?_toString (decide_eq_true (by unfold juneTime; omega))]
  rfl

theorem june_amount : parseRequiredDecimal ⟨.bitget, .perp⟩ operation "funding rate" "0.0001" = .ok ⟨1, -4⟩ := by rfl

theorem june_reads : ∀ row ∈ june, Reads ⟨.bitget, .perp⟩ "BTCUSDT" row (juneRate row) := by
  intro row hrow
  obtain ⟨k, hk, rfl⟩ := mem_map.mp hrow
  have hlast := mem_range.mp hk
  refine ⟨rfl, june_amount, ?_⟩
  rw [juneRate_eq]
  exact BybitBitget.parseRequiredMilli_toString (by unfold juneTime; omega) (decide_eq_true (by unfold juneTime; omega))

theorem june_newest : june.Pairwise fun x y => (juneRate y).fundingTime < (juneRate x).fundingTime := by
  refine pairwise_map.mpr (pairwise_lt_range.imp_of_mem fun {a b} _ hb hab => ?_)
  have hlast := mem_range.mp hb
  rw [juneRate_eq, juneRate_eq]
  show (juneTime b * milli : Int) < juneTime a * milli
  unfold juneTime milli
  omega

theorem juneRates_read : ∃ pages, fundingRateHistory ⟨.bitget, .perp⟩ "BTCUSDT" (venueOf june)
    {limit := 2, finish := juneTime 99 * milli} pages =
      .ok (some ⟨[⟨"BTCUSDT", ⟨1, -4⟩, juneTime 100 * milli⟩, ⟨"BTCUSDT", ⟨1, -4⟩, juneTime 101 * milli⟩], 2, zeroTime,
        juneTime 99 * milli⟩) := by
  obtain ⟨pages, h⟩ := @fundingRateHistory_eq ⟨.bitget, .perp⟩ "BTCUSDT" (venueOf june) juneRate june 2 zeroTime
    (juneTime 99 * milli) (by decide) (.inl rfl) (fun _ _ _ => rfl) june_reads june_newest
  have hrates : june.map juneRate = (range 102).map fun k => ⟨"BTCUSDT", ⟨1, -4⟩, juneTime k * milli⟩ := by
    rw [june, map_map]
    exact map_congr_left fun k _ => juneRate_eq k
  rw [hrates] at h
  exact ⟨pages, h⟩

theorem empty_window_refused :
 ¬∃ pages page,fundingRateHistory ⟨.bitget,.perp⟩ "BTCUSDT" (venueOf june) {limit:=2,start:=5,finish:=5} pages =
  .ok (some page):=by
 rintro ⟨pages,page,h⟩
 cases h

end BolterTrader.Adapters.BitgetFunding
