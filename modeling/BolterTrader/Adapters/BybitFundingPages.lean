import BolterTrader.Adapters.BybitFunding
import BolterTrader.Foundations.Paging

/-! The pages of the Bybit funding payments against a venue that pages faithfully: what one
call leaves to be read, and how its cursor stands for it. -/
namespace BolterTrader.Adapters.BybitFunding
open Foundations Foundations.Fallible Foundations.Paging Exchange FundingPaymentCursor List Option

/-! ## A faithful venue -/

def Row.millis (row:Row):Int:=(Decimal.parseInt64? row.transactionTime).getD 0

def Row.between (row:Row) (startTime endTime:Option Int):Bool:=
 startTime.all (· ≤ row.millis) && endTime.all (row.millis ≤ ·)

structure Venue (hashes:Hashes) (client:Client) (p:Prepared) (instrument:Option Instrument) where
 rows:List Row
 reads:∀ row∈rows,∃ payment,readRow hashes client p instrument row=.ok payment
 listing:Option Int→Option Int→List Row
 listing_perm:∀ startTime endTime,
  (listing startTime endTime).Perm (rows.filter fun row=>row.between startTime endTime)
 size:Option Int→Option Int→ℕ→ℕ→ℕ
 size_pos:∀ startTime endTime place limit,0<limit→0<size startTime endTime place limit
 size_le:∀ startTime endTime place limit,size startTime endTime place limit≤limit
 mark:Option Int→Option Int→ℕ→String
 mark_ne:∀ startTime endTime place,mark startTime endTime place≠""
 place:Option Int→Option Int→String→Option ℕ
 place_empty:∀ startTime endTime,place startTime endTime "" = some 0
 place_mark:∀ startTime endTime place',place'<(listing startTime endTime).length →
  place startTime endTime (mark startTime endTime place')=some place'
 unknownCursor:NativeError

namespace Venue
variable {hashes:Hashes} {client:Client} {p:Prepared} {instrument:Option Instrument}

def answer (v:Venue hashes client p instrument) (q:LogQuery):Except NativeError LogResult:=
 match v.place q.startTime q.endTime q.cursor with
 | none=>.error v.unknownCursor
 | some place=>
  let rows:=v.listing q.startTime q.endTime
  let size:=v.size q.startTime q.endTime place (q.limit.getD nativeLimit)
  .ok {
   list:=(rows.drop place).take size
   nextPageCursor:=if place+size<rows.length then v.mark q.startTime q.endTime (place+size) else "" }

end Venue

/-! ## Reading rows -/

section
variable {hashes:Hashes} {client:Client} {p:Prepared} {r:Request}

def paid (hashes:Hashes) (client:Client) (p:Prepared) (r:Request) (row:Row):Option Settlement:=
 (readRow hashes client p r.instrument row).toOption.filter fun payment=>
  withinHalfOpen payment.effectiveAt r.start r.finish

theorem readRow_time {instrument:Option Instrument} {row:Row} {payment:Settlement}
 (h:readRow hashes client p instrument row=.ok payment):
 payment.effectiveAt=row.millis*milli∧0<row.millis:=by
 unfold readRow at h
 replace h:=past (past (past (past h)))
 unfold settlement at h
 replace h:=past (past h)
 obtain ⟨amount,-,h⟩:=bind_eq_ok h
 obtain ⟨time,htime,h⟩:=bind_eq_ok h
 cases h
 unfold BybitBitget.parseRequiredMilli at htime
 obtain ⟨-,-,htime⟩:=bind_eq_ok htime
 obtain ⟨parsed,hpars,htime⟩:=bind_eq_ok htime
 cases htime
 have hsome:=required_eq_ok hpars
 rw[filter_eq_some_iff] at hsome
 obtain ⟨hpar,hpos⟩:=hsome
 have hmil:row.millis=parsed:=by rw[Row.millis,hpar,getD_some]
 rw[hmil]
 exact ⟨rfl,by simpa using hpos⟩

theorem readRows_eq (now:Int) {rows:List Row}
 (h:∀ row∈rows,∃ payment,readRow hashes client p r.instrument row=.ok payment):
 readRows hashes client p r now rows=.ok ((rows.filterMap (paid hashes client p r)).map fun payment=>⟨payment,now⟩):=by
 induction rows with
 | nil=>rfl
 | cons row rest ih=>
  obtain ⟨payment,hpay⟩:=h row mem_cons_self
  have hrest:=ih fun other hoth=>h other (mem_cons_of_mem row hoth)
  rw[readRows,hpay,hrest]
  have hpaid:paid hashes client p r row =
    if withinHalfOpen payment.effectiveAt r.start r.finish then some payment else none:=by
   rw[paid,hpay]
   rfl
  rw[filterMap_cons,hpaid]
  by_cases hin:withinHalfOpen payment.effectiveAt r.start r.finish=true
  · rw[if_pos hin]
    show Except.ok (if _ then _ else _)=_
    rw[if_pos hin]
    rfl
  · rw[if_neg hin]
    show Except.ok (if _ then _ else _)=_
    rw[if_neg hin]

end

/-! ## What is left to read -/

def lower (r:Request) (sliceStart:Int):Option Int:=sent (optionalMillis (slice r sliceStart).start)
def upper (r:Request) (sliceStart:Int):Option Int:=sent (optionalMillis (slice r sliceStart).queryEnd)
def InWindow (r:Request) (sliceStart:Int):Prop:=splitWindow r=true→ r.start≤ sliceStart∧sliceStart<r.finish

section
variable {hashes:Hashes} {client:Client} {p:Prepared} {r:Request} (v:Venue hashes client p r.instrument)

def segment (sliceStart:Int):List Row:=v.listing (lower r sliceStart) (upper r sliceStart)

def raw (sliceStart:Int):List Row:=
 segment v sliceStart++if _h : Continues r sliceStart then raw (slice r sliceStart).finish else []
 termination_by (r.finish-sliceStart).toNat
 decreasing_by exact _h.remaining_lt

def after (sliceStart:Int):List Row:=if Continues r sliceStart then raw v (slice r sliceStart).finish else []
def left (sliceStart:Int) (place:ℕ):List Row:=(segment v sliceStart).drop place++after v sliceStart

theorem left_zero (sliceStart:Int):left v sliceStart 0=raw v sliceStart:=by
 rw[left,drop_zero,raw,after]
 split<;>rfl

theorem reads_segment {sliceStart:Int} {row:Row} (h:row∈segment v sliceStart):
 ∃ payment,readRow hashes client p r.instrument row=.ok payment:=
 v.reads row (mem_filter.mp ((v.listing_perm _ _).mem_iff.mp h)).1

def observed (now:Int) (payments:List Settlement):List FundingPayment:=
 payments.map fun payment=>⟨payment,now⟩

theorem observed_append (now:Int) (front back:List Settlement):
 observed now (front++back)=observed now front++observed now back:=map_append

def markAfter (sliceStart:Int) (place size:ℕ):String:=
 if place+size<(segment v sliceStart).length then v.mark (lower r sliceStart) (upper r sliceStart) (place+size) else ""

def found (now sliceStart:Int) (place size:ℕ):List FundingPayment:=
 observed now ((((segment v sliceStart).drop place).take size).filterMap (paid hashes client p r))

variable {v} {seen:Int64} {now sliceStart:Int} {venueCursor:String} {items:List FundingPayment} {place:ℕ}

theorem answer_eq {limit:ℕ} (hlimit:0<limit)
 (hplace:v.place (lower r sliceStart) (upper r sliceStart) venueCursor=some place):
 v.answer (logQuery client p r sliceStart venueCursor limit) =
  .ok { list:=((segment v sliceStart).drop place).take (v.size (lower r sliceStart) (upper r sliceStart) place limit)
        nextPageCursor:=
         markAfter v sliceStart place (v.size (lower r sliceStart) (upper r sliceStart) place limit)}:=by
 have hsent:(logQuery client p r sliceStart venueCursor limit).limit=some limit:=if_pos hlimit
 unfold Venue.answer
 rw[hsent]
 show (match v.place (lower r sliceStart) (upper r sliceStart) venueCursor with | none=>_ | some place=>_)=_
 rw[hplace]
 rfl

def rest (v:Venue hashes client p r.instrument) (now sliceStart:Int) (place:ℕ):List FundingPayment:=
 observed now (((segment v sliceStart).drop place).filterMap (paid hashes client p r))

theorem visit_eq (seen:Int64) (now:Int) (hwin:InWindow r sliceStart) (hroom:(items.length : Int)<p.limit.toInt)
 (hplace:v.place (lower r sliceStart) (upper r sliceStart) venueCursor=some place):
 ∃ limit,0<limit∧∀ size,size=v.size (lower r sliceStart) (upper r sliceStart) place limit →
  visit hashes client v.answer p r seen now sliceStart venueCursor items =
   .ok (items++found v now sliceStart place size,
    outcome hashes p r seen sliceStart (markAfter v sliceStart place size)
     (items++found v now sliceStart place size)):=by
 have hgua:¬ (splitWindow r=true∧(sliceStart<r.start∨¬ sliceStart<r.finish)):=by
  rintro ⟨hsp,hout⟩
  obtain ⟨hstrt,hfin⟩:=hwin hsp
  omega
 have hlimit:0< min (p.limit.toInt-items.length).toNat nativeLimit:=by
  have hfif:nativeLimit=50:=rfl
  omega
 have hans:v.answer (logQuery client p r sliceStart venueCursor (min (p.limit.toInt-items.length).toNat nativeLimit))=_:=
  answer_eq hlimit hplace
 refine ⟨_,hlimit,fun size hsize=>?_⟩
 unfold visit
 rw[refuse,if_neg hgua]
 show (if p.limit.toInt-(items.length : Int)≤0 then _ else _)=_
 rw[if_neg (by omega),hans,←hsize]
 show ((readRows hashes client p r now _).mapError Refusal.native >>= _)=_
 rw[readRows_eq now fun row hrow=>reads_segment v (mem_of_mem_drop (mem_of_mem_take hrow))]
 rfl

theorem slice_start (hsp:splitWindow r=true) (sliceStart:Int):(slice r sliceStart).start=sliceStart:=by
 rw[slice,if_pos hsp]

theorem outcome_mark {mark:String} (hmark:mark≠"") (total:List FundingPayment):
 outcome hashes p r seen sliceStart mark total =
  .stop (some (nextEnvelope hashes p r seen total mark (if splitWindow r then some sliceStart else none))):=by
 rw[outcome,if_pos hmark]
 grind [splitWindow,slice_start]

inductive LoopStep (v:Venue hashes client p r.instrument) (seen:Int64) (now sliceStart:Int) (place size:ℕ)
  (items:List FundingPayment) (result:Except Refusal (List FundingPayment×Option Envelope)):Prop
 | mark (hmore:place+size<(segment v sliceStart).length)
  (hresult:result=.ok (items++found v now sliceStart place size,
   some (nextEnvelope hashes p r seen (items++found v now sliceStart place size)
    (v.mark (lower r sliceStart) (upper r sliceStart) (place+size)) (if splitWindow r then some sliceStart else none))))
 | full (hlast:(segment v sliceStart).length≤place+size)
  (hfull:p.limit.toInt≤(items++rest v now sliceStart place).length)
  (hresult:result=.ok (items++rest v now sliceStart place,
   if Continues r sliceStart then
    some (nextEnvelope hashes p r seen (items++rest v now sliceStart place) "" (some (slice r sliceStart).finish))
   else none))
 | next (hlast:(segment v sliceStart).length≤place+size)
  (hroom:((items++rest v now sliceStart place).length : Int)<p.limit.toInt) (hcontinues:Continues r sliceStart)
  (hresult:result=loop hashes client v.answer p r seen now (slice r sliceStart).finish ""
   (items++rest v now sliceStart place))
 | last (hlast:(segment v sliceStart).length≤place+size) (hcontinues:¬ Continues r sliceStart)
  (hresult:result=.ok (items++rest v now sliceStart place,none))

theorem loop_step (seen:Int64) (now:Int) (hwin:InWindow r sliceStart) (hroom:(items.length : Int)<p.limit.toInt)
 (hplace:v.place (lower r sliceStart) (upper r sliceStart) venueCursor=some place):
 ∃ limit,0<limit∧LoopStep v seen now sliceStart place (v.size (lower r sliceStart) (upper r sliceStart) place limit)
  items (loop hashes client v.answer p r seen now sliceStart venueCursor items):=by
 obtain ⟨limit,hlimit,hvis⟩:=visit_eq seen now hwin hroom hplace
 refine ⟨limit,hlimit,?_⟩
 generalize v.size (lower r sliceStart) (upper r sliceStart) place limit=size at hvis ⊢
 rw[loop,hvis size rfl]
 by_cases hmore:place+size<(segment v sliceStart).length
 · have hmark:markAfter v sliceStart place size=v.mark (lower r sliceStart) (upper r sliceStart) (place+size):=
    if_pos hmore
   rw[hmark,outcome_mark (v.mark_ne _ _ _)]
   exact .mark hmore rfl
 · have hmark:markAfter v sliceStart place size="" := if_neg hmore
   have hlast:=not_lt.mp hmore
   have hall:found v now sliceStart place size=rest v now sliceStart place:=by
    rw[found,rest,take_of_length_le (by rw[length_drop]; omega)]
   rw[hmark,hall,outcome,if_neg (by simp)]
   by_cases hfull:p.limit.toInt≤(items++rest v now sliceStart place).length
   · rw[if_pos hfull]
     exact .full hlast hfull rfl
   · rw[if_neg hfull]
     by_cases hcont:Continues r sliceStart
     · exact .next hlast (not_le.mp hfull) hcont (dif_pos hcont)
     · exact .last hlast hcont (dif_neg hcont)

/-! ## One call -/

inductive LoopEnds (v:Venue hashes client p r.instrument) (good:Int→Prop) (seen:Int64) (now sliceStart:Int)
  (place:ℕ) (items:List FundingPayment):List FundingPayment×Option Envelope→Prop
 | last : LoopEnds v good seen now sliceStart place items
  (items++observed now ((left v sliceStart place).filterMap (paid hashes client p r)),none)
 | more (taken:List Row) (nextStart:Int) (nextPlace:ℕ) (venueCursor:String) (total:List FundingPayment)
  (hne:taken≠[]) (hleft:taken++left v nextStart nextPlace=left v sliceStart place)
  (hgood:good nextStart) (hwindow:InWindow r nextStart)
  (hplace:v.place (lower r nextStart) (upper r nextStart) venueCursor=some nextPlace):
  LoopEnds v good seen now sliceStart place items
   (items++observed now (taken.filterMap (paid hashes client p r)),
    some (nextEnvelope hashes p r seen total venueCursor (if splitWindow r then some nextStart else none)))

theorem inWindow_finish (h:Continues r sliceStart) (hwin:InWindow r sliceStart):
 InWindow r (slice r sliceStart).finish:=by
 intro hsp
 have hfin:=h.finish_eq
 have hweek:0<week:=by decide
 obtain ⟨hstrt,-⟩:=hwin hsp
 exact ⟨by omega,h.2⟩

theorem LoopEnds.cons {good:Int→Prop} {result:List FundingPayment×Option Envelope}
 (hcont:Continues r sliceStart)
 (h:LoopEnds v good seen now (slice r sliceStart).finish 0 (items++rest v now sliceStart place) result):
 LoopEnds v good seen now sliceStart place items result:=by
 have haf:after v sliceStart=left v (slice r sliceStart).finish 0:=by
  rw[after,if_pos hcont,left_zero]
 cases h with
 | last=>
  rw[rest,append_assoc,←observed_append,←filterMap_append,←haf]
  exact .last
 | more taken nextStart nextPlace venueCursor total hne hleft hgood hwin hplace=>
  rw[rest,append_assoc,←observed_append,←filterMap_append]
  refine .more _ nextStart nextPlace venueCursor total ?_ ?_ hgood hwin hplace
  · exact append_ne_nil_of_right_ne_nil _ hne
  · rw[append_assoc,hleft,←haf]
    rfl

theorem loopEnds_mark {good:Int→Prop} {size:ℕ} (hgood:good sliceStart) (hwin:InWindow r sliceStart)
 (hsize:0<size) (hmore:place+size<(segment v sliceStart).length) (total:List FundingPayment):
 LoopEnds v good seen now sliceStart place items
  (items++found v now sliceStart place size,
   some (nextEnvelope hashes p r seen total (v.mark (lower r sliceStart) (upper r sliceStart) (place+size))
    (if splitWindow r then some sliceStart else none))):=by
 refine .more _ sliceStart (place+size) _ total ?_ ?_ hgood hwin (v.place_mark _ _ _ hmore)
 · grind [length_take,length_drop,length_nil]
 · rw[left,left,←append_assoc,←drop_drop,take_append_drop]

theorem left_last (hcont:¬ Continues r sliceStart):left v sliceStart place=(segment v sliceStart).drop place:=by
 rw[left,after,if_neg hcont,append_nil]

theorem loopEnds_full {good:Int→Prop} (hnext:Continues r sliceStart→ good (slice r sliceStart).finish)
 (hwin:InWindow r sliceStart) (hne:rest v now sliceStart place≠[]) (total:List FundingPayment):
 LoopEnds v good seen now sliceStart place items
  (items++rest v now sliceStart place,
   if Continues r sliceStart then some (nextEnvelope hashes p r seen total "" (some (slice r sliceStart).finish))
   else none):=by
 by_cases hcont:Continues r sliceStart
 · have hrows:(segment v sliceStart).drop place≠[]:=by
    intro hnil
    rw[rest,hnil] at hne
    exact hne rfl
   have hleft:(segment v sliceStart).drop place++left v (slice r sliceStart).finish 0=left v sliceStart place:=by
    rw[left_zero,left,after,if_pos hcont]
   have hsp:(if splitWindow r then some (slice r sliceStart).finish else none)=some (slice r sliceStart).finish:=
    if_pos hcont.1
   rw[if_pos hcont,←hsp]
   exact .more _ _ 0 "" total hrows hleft (hnext hcont) (inWindow_finish hcont hwin) (v.place_empty _ _)
 · rw[if_neg hcont,rest,←left_last hcont]
   exact .last

theorem loop_ends (good:Int→Prop) (hnext:∀ start,good start→ Continues r start→ good (slice r start).finish)
 (hgood:good sliceStart) (hwin:InWindow r sliceStart) (hroom:(items.length : Int)<p.limit.toInt)
 (hplace:v.place (lower r sliceStart) (upper r sliceStart) venueCursor=some place):
 ∃ result,loop hashes client v.answer p r seen now sliceStart venueCursor items=.ok result∧
  LoopEnds v good seen now sliceStart place items result:=by
 induction hn : (r.finish-sliceStart).toNat using Nat.strongRecOn generalizing sliceStart venueCursor items place with
 | ind n ih=>
  obtain ⟨limit,hlimit,hstep⟩:=loop_step seen now hwin hroom hplace
  have hsize:=v.size_pos (lower r sliceStart) (upper r sliceStart) place limit hlimit
  cases hstep with
  | mark hmore hres=>exact ⟨_,hres,loopEnds_mark hgood hwin hsize hmore _⟩
  | full hlast hfull hres=>
   refine ⟨_,hres,loopEnds_full (hnext sliceStart hgood) hwin ?_ _⟩
   grind
  | next hlast hroom' hcont hres=>
   obtain ⟨result,hloop,hends⟩:=ih _ (hn▸hcont.remaining_lt) (hnext sliceStart hgood hcont)
    (inWindow_finish hcont hwin) hroom' (v.place_empty _ _) rfl
   exact ⟨result,hres.trans hloop,hends.cons hcont⟩
  | last hlast hcont hres=>
   rw[rest,←left_last hcont] at hres
   exact ⟨_,hres,.last⟩

/-! ## Call after call -/

def call (v:Venue hashes client p r.instrument) (now:ℕ→Int) (s:ℕ×String):
 Except Refusal (List Settlement×Option (ℕ×String)):=
 (fundingPayments hashes client v.answer r (now s.1) s.2).map fun page=>
  (page.items.map (·.toSettlement),if page.cursor="" then none else some (s.1+1,page.cursor))

theorem toSettlement_observed (now:Int) (payments:List Settlement):
 (observed now payments).map (·.toSettlement)=payments:=by
 rw[observed,List.map_map]
 exact map_id payments

def Stands (hashes:Hashes) (client:Client) (p:Prepared) (r:Request) (cursor:String) (sliceStart:Int)
 (venueCursor:String) (seen:Int64):Prop:=
 ∃ e,decode hashes cursor (cursorKey hashes client) (p.scope hashes r)=.ok e∧resumeAt r e=sliceStart∧
  e.venueCursor=venueCursor∧e.itemsSeen=seen

theorem call_eq {cursor:String} (hp:prepare client r=.ok p)
 (h:Stands hashes client p r cursor sliceStart venueCursor seen) (clock:ℕ→Int) (i:ℕ):
 call v clock (i,cursor) =
  (loop hashes client v.answer p r seen (clock i) sliceStart venueCursor []).map fun result=>
   (result.1.map (·.toSettlement),result.2.map fun next=>(i+1,encode hashes (cursorKey hashes client) next)):=by
 obtain ⟨e,he,rfl,rfl,rfl⟩:=h
 have hpage:fundingPayments hashes client v.answer r (clock i) cursor =
   (loop hashes client v.answer p r e.itemsSeen (clock i) (resumeAt r e) e.venueCursor []).map fun result=>
    { items:=result.1,cursor:=(result.2.map (encode hashes (cursorKey hashes client))).getD "",limit:=p.limit,
      windowStart:=r.start,windowEnd:=r.finish,hasMore:=result.2.isSome}:=by
  unfold fundingPayments
  rw[hp]
  show ((decode hashes cursor (cursorKey hashes client) (p.scope hashes r)).mapError Refusal.cursor >>= _)=_
  rw[he]
  show (loop hashes client v.answer p r e.itemsSeen (clock i) (resumeAt r e) e.venueCursor [] >>= _)=_
  cases loop hashes client v.answer p r e.itemsSeen (clock i) (resumeAt r e) e.venueCursor []<;>rfl
 rw[call,hpage]
 cases loop hashes client v.answer p r e.itemsSeen (clock i) (resumeAt r e) e.venueCursor [] with
 | error=>rfl
 | ok result=>
  obtain ⟨items,next⟩:=result
  cases next with
  | none=>rfl
  | some next=>
   have hne:encode hashes (cursorKey hashes client) next≠"" := cursorOf_ne_empty _
   show Except.ok (_,if encode hashes (cursorKey hashes client) next="" then none else _)=_
   rw[if_neg hne]
   rfl

def Alike (r:Request) (sliceStart other:Int):Prop:=
 ∀ n:ℕ,lower r (sliceStart+n*week)=lower r (other+n*week)∧
  upper r (sliceStart+n*week)=upper r (other+n*week)∧
  (Continues r (sliceStart+n*week) ↔ Continues r (other+n*week))

theorem Alike.refl (sliceStart:Int):Alike r sliceStart sliceStart:=fun _=>⟨rfl,rfl,Iff.rfl⟩

theorem Alike.next {other:Int} (h:Alike r sliceStart other):Alike r (sliceStart+week) (other+week):=by
 intro n
 have hshi (start:Int):start+week+n*week=start+(n+1 : ℕ)*week:=by
  push_cast
  ring
 rw[hshi,hshi]
 exact h (n+1)

theorem Alike.bounds {other:Int} (h:Alike r sliceStart other):
 lower r sliceStart=lower r other∧upper r sliceStart=upper r other∧
  (Continues r sliceStart ↔ Continues r other):=by
 have hzero:=h 0
 simpa using hzero

theorem Alike.after {other:Int} (v:Venue hashes client p r.instrument) (h:Alike r sliceStart other):
 after v sliceStart=after v other:=by
 induction hn : (r.finish-sliceStart).toNat using Nat.strongRecOn generalizing sliceStart other with
 | ind n ih=>
  obtain ⟨-,-,hcont⟩:=h.bounds
  by_cases hgoes:Continues r sliceStart
  · have hoth:=hcont.mp hgoes
    have hless:=hgoes.remaining_lt
    rw[BybitFunding.after,BybitFunding.after,if_pos hgoes,if_pos hoth,←left_zero,←left_zero]
    rw[hgoes.finish_eq] at hless ⊢
    rw[hoth.finish_eq,left,left,ih _ (hn▸hless) h.next rfl,segment,segment,h.next.bounds.1,h.next.bounds.2.1]
  · rw[BybitFunding.after,BybitFunding.after,if_neg hgoes,if_neg (mt hcont.mpr hgoes)]

theorem Alike.left {other:Int} (v:Venue hashes client p r.instrument) (h:Alike r sliceStart other) (place:ℕ):
 left v sliceStart place=left v other place:=by
 rw[BybitFunding.left,BybitFunding.left,h.after v,segment,segment,h.bounds.1,h.bounds.2.1]

def resumed (r:Request) (sliceStart:Int):Int:=
 resumeAt r {sliceStartMillis:=if splitWindow r then optionalMillis sliceStart else 0}

theorem stands_empty (hashes:Hashes) (client:Client) (p:Prepared) (r:Request):
 ∃ seen,Stands hashes client p r "" r.start "" seen:=by
 refine ⟨_,{p.scope hashes r with traversalStarted:=true},if_pos rfl,?_,rfl,rfl⟩
 have hzero:¬ (0:Int64)<0:=by decide
 exact if_neg hzero

theorem stands_next (seen:Int64) (total:List FundingPayment) (venueCursor:String) (sliceStart:Int):
 Stands hashes client p r
  (encode hashes (cursorKey hashes client)
   (nextEnvelope hashes p r seen total venueCursor (if splitWindow r then some sliceStart else none)))
  (resumed r sliceStart) venueCursor (seen+Int64.ofNat total.length):=by
 refine ⟨_,decode_encode _ rfl,?_,rfl,rfl⟩
 unfold resumed resumeAt nextEnvelope Envelope.stamp
 grind

structure Resumes (r:Request) (good:Int→Prop):Prop where
 next:∀ start,good start→ Continues r start→ good (slice r start).finish
 inWindow:∀ start,good start→InWindow r start→InWindow r (resumed r start)
 resumed:∀ start,good start→InWindow r start→ good (resumed r start)
 alike:∀ start,good start→InWindow r start→Alike r start (BybitFunding.resumed r start)

def pending (v:Venue hashes client p r.instrument) (cursor:String):List Row:=
 match decode hashes cursor (cursorKey hashes client) (p.scope hashes r) with
 | .error _=>[]
 | .ok e=>left v (resumeAt r e) ((v.place (lower r (resumeAt r e)) (upper r (resumeAt r e)) e.venueCursor).getD 0)

def Ready (v:Venue hashes client p r.instrument) (good:Int→Prop) (cursor:String):Prop:=
 ∃ sliceStart venueCursor seen place,Stands hashes client p r cursor sliceStart venueCursor seen∧good sliceStart∧
  InWindow r sliceStart∧v.place (lower r sliceStart) (upper r sliceStart) venueCursor=some place

theorem pending_eq {cursor:String} (h:Stands hashes client p r cursor sliceStart venueCursor seen)
 (hplace:v.place (lower r sliceStart) (upper r sliceStart) venueCursor=some place):
 pending v cursor=left v sliceStart place:=by
 obtain ⟨e,he,rfl,rfl,rfl⟩:=h
 rw[pending,he]
 grind

theorem call_ready {good:Int→Prop} (hp:prepare client r=.ok p) (hlimit:0<p.limit.toInt)
 (hres:Resumes r good) {cursor:String} (h:Ready v good cursor) (clock:ℕ→Int) (i:ℕ):
 call v clock (i,cursor)=.ok ((pending v cursor).filterMap (paid hashes client p r),none)∨
 ∃ taken next,call v clock (i,cursor)=.ok (taken.filterMap (paid hashes client p r),some (i+1,next))∧
  Ready v good next∧taken++pending v next=pending v cursor∧taken≠[]:=by
 obtain ⟨sliceStart,venueCursor,seen,place,hst,hgood,hwin,hplace⟩:=h
 have hroom:(([]:List FundingPayment).length : Int)<p.limit.toInt:=by simpa using hlimit
 obtain ⟨result,hloop,hends⟩:=loop_ends good hres.next hgood hwin hroom hplace
 rw[call_eq hp hst,hloop,pending_eq hst hplace]
 cases hends with
 | last=>
  left
  show Except.ok (_,none)=_
  rw[nil_append,toSettlement_observed]
 | more taken nextStart nextPlace venueCursor total hne hleft hgood hwin hplace=>
  have hali:=hres.alike nextStart hgood hwin
  have hnext:Stands hashes client p r (encode hashes (cursorKey hashes client) _) (resumed r nextStart) venueCursor _:=
   stands_next seen total venueCursor nextStart
  have hplace':v.place (lower r (resumed r nextStart)) (upper r (resumed r nextStart)) venueCursor=some nextPlace:=by
   rw[←hali.bounds.1,←hali.bounds.2.1]
   exact hplace
  refine .inr ⟨taken,_,?_,⟨_,_,_,nextPlace,hnext,hres.resumed nextStart hgood hwin,
   hres.inWindow nextStart hgood hwin,hplace'⟩,?_,hne⟩
  · show Except.ok (_,some _)=_
    rw[nil_append,toSettlement_observed]
  · rw[pending_eq hnext hplace',←hali.left v,hleft]

theorem follow_raw {good:Int→Prop} (hp:prepare client r=.ok p) (hlimit:0<p.limit.toInt)
 (hres:Resumes r good) (hgood:good r.start) (hwin:InWindow r r.start) (clock:ℕ→Int):
 ∃ n,follow (call v clock) n (0,"")=.ok (some ((raw v r.start).filterMap (paid hashes client p r))):=by
 obtain ⟨seen,hst⟩:=stands_empty hashes client p r
 have hrea:Ready v good "" := ⟨_,_,_,0,hst,hgood,hwin,v.place_empty _ _⟩
 have hall:∃ n,follow (call v clock) n (0,"")=.ok (some ((pending v "").filterMap (paid hashes client p r))):=by
  refine follow_complete (fun s:ℕ×String=>Ready v good s.2) (fun s=>(pending v s.2).filterMap (paid hashes client p r))
   (fun s=>(pending v s.2).length) ?_ hrea
  rintro ⟨i,cursor⟩ (hrea:Ready v good cursor)
  obtain hlast | ⟨taken,next,hmore,hnext,hsp,hne⟩:=call_ready hp hlimit hres hrea clock i
  · exact .inl hlast
  · refine .inr ⟨_,_,hmore,hnext,?_,?_⟩
    · rw[←filterMap_append,hsp]
    all_goals grind [length_pos_of_ne_nil]
 rwa[pending_eq hst (v.place_empty _ _),left_zero] at hall

end

end BolterTrader.Adapters.BybitFunding
